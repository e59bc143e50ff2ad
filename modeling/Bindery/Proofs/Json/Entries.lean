import Bindery.Proofs.Json.Filling
import Mathlib.Data.List.Pairwise

/-!
# Records read entry by entry

What a record makes of an object is a matter of the entries of the object, its keys with their
values. `RecordForm.Reads` tells entry by entry what becomes of them, and `SharedForm.Reads` does so
where two records share an object: the entries of the first are read as they come, and all others
are kept for the second. From this it follows what does not matter to a record: the order of the
entries, if its fields do not meddle with one another (`RecordForm.Reads.perm`), entries under names
that it does not declare (`RecordForm.Reads.insert`), and what stands for a value that its field
reads the same (`RecordForm.Reads.replace`).
-/

namespace Bindery.Json

variable {ρ σ α β : Type}

/-! ## Entries and values -/

/-- A key of an object as it is written, and its value. -/
abbrev Entry := List Char × Doc

/-- The entries of an object in their order, if it ends. -/
def Members.entries? : Members → Option (List Entry)
  | .close _ => some []
  | .fault => none
  | .member _ key _ value rest => rest.entries?.map ((key, value) :: ·)

/-- The values of an array in their order, if it ends. -/
def Items.values? : Items → Option (List Doc)
  | .close _ => some []
  | .fault => none
  | .item _ value rest => rest.values?.map (value :: ·)

theorem Members.fits_iff {room : Nat} {members : Members} :
    members.fits room = true ↔ ∃ es, members.entries? = some es ∧
      ∀ e ∈ es, (unescape e.1).isSome = true ∧ e.2.fits room = true := by
  induction members using Members.induct with
  | close sep => simp [fits, entries?]
  | fault => simp [fits, entries?]
  | member sep key colon value rest ih =>
    rw [fits, Bool.and_eq_true, Bool.and_eq_true, ih, entries?]
    constructor
    · rintro ⟨hhere, es, hes, hrest⟩
      exact ⟨_, by rw [hes]; rfl, List.forall_mem_cons.mpr ⟨hhere, hrest⟩⟩
    · rintro ⟨_, hall, hfits⟩
      obtain ⟨es, hes, rfl⟩ := Option.map_eq_some_iff.mp hall
      obtain ⟨hhere, hrest⟩ := List.forall_mem_cons.mp hfits
      exact ⟨hhere, es, hes, hrest⟩

theorem Items.fits_iff {room : Nat} {items : Items} :
    items.fits room = true ↔ ∃ values, items.values? = some values ∧
      ∀ value ∈ values, value.fits room = true := by
  induction items using Items.induct with
  | close sep => simp [fits, values?]
  | fault => simp [fits, values?]
  | item sep value rest ih =>
    rw [fits, Bool.and_eq_true, ih, values?]
    constructor
    · rintro ⟨hhere, values, hvalues, hrest⟩
      exact ⟨_, by rw [hvalues]; rfl, List.forall_mem_cons.mpr ⟨hhere, hrest⟩⟩
    · rintro ⟨_, hall, hfits⟩
      obtain ⟨values, hvalues, rfl⟩ := Option.map_eq_some_iff.mp hall
      obtain ⟨hhere, hrest⟩ := List.forall_mem_cons.mp hfits
      exact ⟨hhere, values, hvalues, hrest⟩

mutual

/-- What can be held in memory has no fault. -/
theorem Doc.isSound_of_fits : ∀ {doc : Doc} {room : Nat}, doc.fits room = true → doc.isSound = true
  | .null, _, _ => rfl
  | .bool _, _, _ => rfl
  | .number _, _, _ => rfl
  | .string _, _, _ => rfl
  | .array _, _, h => Items.isSound_of_fits (Bool.and_eq_true_iff.mp h).2
  | .object _, _, h => Members.isSound_of_fits (Bool.and_eq_true_iff.mp h).2

theorem Items.isSound_of_fits : ∀ {items : Items} {room : Nat}, items.fits room = true →
    items.isSound = true
  | .close _, _, _ => rfl
  | .item _ _ _, _, h =>
    have ⟨hvalue, hrest⟩ := Bool.and_eq_true_iff.mp h
    Bool.and_eq_true_iff.mpr ⟨Doc.isSound_of_fits hvalue, Items.isSound_of_fits hrest⟩

theorem Members.isSound_of_fits : ∀ {members : Members} {room : Nat}, members.fits room = true →
    members.isSound = true
  | .close _, _, _ => rfl
  | .member _ _ _ _ _, _, h =>
    have ⟨hhere, hrest⟩ := Bool.and_eq_true_iff.mp h
    Bool.and_eq_true_iff.mpr
      ⟨Doc.isSound_of_fits (Bool.and_eq_true_iff.mp hhere).2, Members.isSound_of_fits hrest⟩

end

theorem Members.height_le {members : Members} {es : List Entry} (h : members.entries? = some es)
    {e : Entry} (he : e ∈ es) : e.2.height ≤ members.height := by
  induction members using Members.induct generalizing es with
  | close sep =>
    obtain rfl := Option.some.inj h
    exact absurd he List.not_mem_nil
  | fault => cases h
  | member sep key colon value rest ih =>
    obtain ⟨later, hlater, rfl⟩ := Option.map_eq_some_iff.mp h
    rcases List.mem_cons.mp he with rfl | he
    · exact Nat.le_max_left _ _
    · exact Nat.le_trans (ih hlater he) (Nat.le_max_right _ _)

theorem Items.height_le {items : Items} {values : List Doc} (h : items.values? = some values)
    {value : Doc} (hvalue : value ∈ values) : value.height ≤ items.height := by
  induction items using Items.induct generalizing values with
  | close sep =>
    obtain rfl := Option.some.inj h
    exact absurd hvalue List.not_mem_nil
  | fault => cases h
  | item sep first rest ih =>
    obtain ⟨later, hlater, rfl⟩ := Option.map_eq_some_iff.mp h
    rcases List.mem_cons.mp hvalue with rfl | hvalue
    · exact Nat.le_max_left _ _
    · exact Nat.le_trans (ih hlater hvalue) (Nat.le_max_right _ _)

/-! ## Values of a list -/

theorem decodeItems_eq_ok_iff {decode : Doc → Except Fault α} {items : Items} {xs : List α} :
    decodeItems decode items = .ok xs ↔ ∃ values, items.values? = some values ∧
      List.Forall₂ (fun value x => decode value = .ok x) values xs := by
  induction items using Items.induct generalizing xs with
  | close sep => simp [decodeItems, Items.values?, eq_comm]
  | fault => simp [decodeItems, Items.values?]
  | item sep value rest ih =>
    rw [decodeItems, Except.bind_eq_ok_iff, Items.values?]
    constructor
    · rintro ⟨x, hx, h⟩
      obtain ⟨later, hlater, h⟩ := Except.bind_eq_ok_iff.mp h
      obtain rfl := Except.ok.inj h
      obtain ⟨values, hvalues, hall⟩ := ih.mp hlater
      exact ⟨_, by rw [hvalues]; rfl, .cons hx hall⟩
    · rintro ⟨_, hmap, hall⟩
      obtain ⟨values, hvalues, rfl⟩ := Option.map_eq_some_iff.mp hmap
      cases hall with
      | cons hx hall =>
        refine ⟨_, hx, Except.bind_eq_ok_iff.mpr ⟨_, ih.mpr ⟨values, hvalues, hall⟩, rfl⟩⟩

theorem decodeList_eq_ok_iff {decode : Decoder α} {scope : Scope} {doc : Doc} {xs : List α} :
    decodeList decode scope doc = .ok xs ↔ ∃ items inner values, doc = .array items ∧
      scope.enter = .ok inner ∧ items.values? = some values ∧
      List.Forall₂ (fun value x => decode inner value = .ok x) values xs := by
  constructor
  · intro h
    unfold decodeList at h
    split at h
    · rename_i items
      obtain ⟨inner, henter, h⟩ := Except.bind_eq_ok_iff.mp h
      obtain ⟨values, hvalues, hall⟩ := decodeItems_eq_ok_iff.mp h
      exact ⟨items, inner, values, rfl, henter, hvalues, hall⟩
    · exact absurd h wrongType_ne_ok
  · rintro ⟨items, inner, values, rfl, henter, hvalues, hall⟩
    exact Except.bind_eq_ok_iff.mpr
      ⟨inner, henter, decodeItems_eq_ok_iff.mpr ⟨values, hvalues, hall⟩⟩

/-! ## Records with an object of their own -/

namespace RecordForm

/-- The entries take the record to another one. Entries under the name of a field are read, each
name once, and entries under other names are passed over. -/
inductive Reads (form : RecordForm ρ) (scope : Scope) :
    List String → ρ → List Entry → ρ → Prop where
  | done {seen : List String} (r : ρ) (h : checkRequired seen form.fields = .ok ()) :
      Reads form scope seen r [] r
  | field {seen : List String} {key : List Char} {name : String} {value : Doc} {es : List Entry}
      {field : Field ρ} {r r' s : ρ} (hkey : unescape key = some name.toList)
      (hfield : form.fields.find? (·.name == name) = some field) (hnew : name ∉ seen)
      (hread : field.read scope value r = .ok r')
      (hrest : Reads form scope (name :: seen) r' es s) :
      Reads form scope seen r ((key, value) :: es) s
  | unknown {seen : List String} {key : List Char} {name : String} {value : Doc}
      {es : List Entry} {r s : ρ} (hkey : unescape key = some name.toList)
      (hnone : form.fields.find? (·.name == name) = none) (hsound : value.isSound = true)
      (hrest : Reads form scope seen r es s) : Reads form scope seen r ((key, value) :: es) s

variable {form : RecordForm ρ} {scope : Scope} {seen : List String} {r s : ρ} {es : List Entry}

theorem readMembers_eq_ok_iff {members : Members} :
    form.readMembers scope seen r members = .ok s ↔
      ∃ es, members.entries? = some es ∧ form.Reads scope seen r es s := by
  constructor
  · intro h
    induction members using Members.induct generalizing seen r with
    | close sep =>
      obtain ⟨⟨⟩, hcheck, heq⟩ := Except.bind_eq_ok_iff.mp h
      obtain rfl := Except.ok.inj heq
      exact ⟨[], rfl, .done r hcheck⟩
    | fault => cases h
    | member sep key colon value rest ih =>
      obtain ⟨name, hkey, ⟨field, r', hfield, hnew, hread, hrest⟩ | ⟨hnone, hsound, hrest⟩⟩ :=
        readMembers_member h
      · obtain ⟨es, hes, hreads⟩ := ih hrest
        exact ⟨_, by rw [Members.entries?, hes]; rfl, .field hkey hfield hnew hread hreads⟩
      · obtain ⟨es, hes, hreads⟩ := ih hrest
        exact ⟨_, by rw [Members.entries?, hes]; rfl, .unknown hkey hnone hsound hreads⟩
  · rintro ⟨es, hes, hreads⟩
    induction members using Members.induct generalizing seen r es with
    | close sep =>
      obtain rfl := Option.some.inj hes
      cases hreads with
      | done _ hcheck => exact Except.bind_eq_ok_iff.mpr ⟨(), hcheck, rfl⟩
    | fault => cases hes
    | member sep key colon value rest ih =>
      obtain ⟨later, hlater, rfl⟩ := Option.map_eq_some_iff.mp hes
      cases hreads with
      | field hkey hfield hnew hread hrest =>
        rw [readMembers, stringText_eq_ok_iff.mpr hkey, Except.ok_bind, hfield]
        refine Except.guard_eq_ok_iff.mpr ⟨by simpa using hnew, ?_⟩
        exact Except.bind_eq_ok_iff.mpr ⟨_, hread, ih _ hlater hrest⟩
      | unknown hkey hnone hsound hrest =>
        rw [readMembers, stringText_eq_ok_iff.mpr hkey, Except.ok_bind, hnone]
        exact Except.bind_eq_ok_iff.mpr ⟨(), skip_eq_ok_iff.mpr hsound, ih _ hlater hrest⟩

theorem decode_object_eq_ok_iff {members : Members} :
    form.decode scope (.object members) = .ok s ↔ ∃ inner es, scope.enter = .ok inner ∧
      members.entries? = some es ∧ form.Reads inner [] form.initial es s := by
  constructor
  · intro h
    obtain ⟨inner, henter, h⟩ := Except.bind_eq_ok_iff.mp h
    obtain ⟨es, hes, hreads⟩ := readMembers_eq_ok_iff.mp h
    exact ⟨inner, es, henter, hes, hreads⟩
  · rintro ⟨inner, es, henter, hes, hreads⟩
    exact Except.bind_eq_ok_iff.mpr ⟨inner, henter, readMembers_eq_ok_iff.mpr ⟨es, hes, hreads⟩⟩

/-- Every key of an object that is read has a name. -/
theorem Reads.exists_name (h : form.Reads scope seen r es s) {e : Entry} (he : e ∈ es) :
    ∃ name : String, unescape e.1 = some name.toList := by
  induction h with
  | done => exact absurd he List.not_mem_nil
  | field hkey _ _ _ _ ih =>
    rcases List.mem_cons.mp he with rfl | he
    · exact ⟨_, hkey⟩
    · exact ih he
  | unknown hkey _ _ _ ih =>
    rcases List.mem_cons.mp he with rfl | he
    · exact ⟨_, hkey⟩
    · exact ih he

end RecordForm

/-! ## What does not matter to a record -/

/-- Of two fields it does not matter which is read first. -/
def Field.Commutes (f g : Field ρ) : Prop :=
  ∀ scope v w r t, (∃ s, f.read scope v r = .ok s ∧ g.read scope w s = .ok t) ↔
    ∃ s, g.read scope w r = .ok s ∧ f.read scope v s = .ok t

instance : Std.Symm (@Field.Commutes ρ) :=
  ⟨fun _ _ h scope v w r t => (h scope w v r t).symm⟩

theorem Field.of_commutes {name name' : String} {presence presence' : Presence}
    {decode : Decoder α} {decode' : Decoder β} {set : ρ → α → ρ} {put : ρ → β → ρ}
    (h : ∀ r x y, put (set r x) y = set (put r y) x) :
    (Field.of name presence decode set).Commutes (.of name' presence' decode' put) := by
  intro scope v w r t
  constructor
  · rintro ⟨s, hs, ht⟩
    obtain ⟨x, hx, rfl⟩ := map_eq_ok_iff.mp hs
    obtain ⟨y, hy, rfl⟩ := map_eq_ok_iff.mp ht
    exact ⟨put r y, Field.read_of hy, by rw [h]; exact Field.read_of hx⟩
  · rintro ⟨s, hs, ht⟩
    obtain ⟨y, hy, rfl⟩ := map_eq_ok_iff.mp hs
    obtain ⟨x, hx, rfl⟩ := map_eq_ok_iff.mp ht
    exact ⟨set r x, Field.read_of hx, by rw [← h]; exact Field.read_of hy⟩

namespace RecordForm

variable {form : RecordForm ρ} {scope : Scope} {seen : List String} {r s : ρ} {es : List Entry}

/-- The fields can be read in any order. -/
def Commuting (form : RecordForm ρ) : Prop := form.fields.Pairwise Field.Commutes

theorem checkRequired_congr {seen seen' : List String} (h : ∀ name, name ∈ seen ↔ name ∈ seen')
    (fields : List (Field ρ)) : checkRequired seen fields = checkRequired seen' fields := by
  induction fields with
  | nil => rfl
  | cons field rest ih =>
    have hcontains : seen.contains field.name = seen'.contains field.name := by
      rw [Bool.eq_iff_iff, List.contains_iff_mem, List.contains_iff_mem]
      exact h field.name
    rw [checkRequired, checkRequired, hcontains, ih]

/-- Of the names that have been seen only the set counts. -/
theorem Reads.seen_congr {seen' : List String} (h : form.Reads scope seen r es s)
    (hseen : ∀ name, name ∈ seen ↔ name ∈ seen') : form.Reads scope seen' r es s := by
  induction h generalizing seen' with
  | done r hcheck => exact .done r (checkRequired_congr hseen form.fields ▸ hcheck)
  | field hkey hfield hnew hread _ ih =>
    refine .field hkey hfield (fun hmem => hnew ((hseen _).mpr hmem)) hread (ih fun name => ?_)
    rw [List.mem_cons, List.mem_cons, hseen]
  | unknown hkey hnone hsound _ ih => exact .unknown hkey hnone hsound (ih hseen)

/-- Two entries next to each other can change places. -/
theorem Reads.swap (hform : form.Commuting) {e e' : Entry}
    (h : form.Reads scope seen r (e :: e' :: es) s) :
    form.Reads scope seen r (e' :: e :: es) s := by
  cases h with
  | @field _ _ name _ _ f _ r₁ _ hkey hfield hnew hread hrest =>
    cases hrest with
    | @field _ _ name' _ _ g _ r₂ _ hkey' hfield' hnew' hread' hrest =>
      -- the second name is new behind the first, so that two different fields are read
      have hne := List.ne_of_not_mem_cons hnew'
      have hfields : f ≠ g := by
        rintro rfl
        have hname : f.name = name := by simpa using List.find?_some hfield
        have hname' : f.name = name' := by simpa using List.find?_some hfield'
        exact hne (hname'.symm.trans hname)
      have hcommutes : f.Commutes g := hform.forall
        (List.mem_of_find?_eq_some hfield) (List.mem_of_find?_eq_some hfield') hfields
      obtain ⟨r₁', hread', hread⟩ := (hcommutes _ _ _ _ _).mp ⟨r₁, hread, hread'⟩
      refine .field hkey' hfield' (List.not_mem_of_not_mem_cons hnew') hread'
        (.field hkey hfield ?_ hread ?_)
      · exact List.not_mem_cons_of_ne_of_not_mem (Ne.symm hne) hnew
      · exact hrest.seen_congr fun _ => (List.Perm.swap _ _ _).mem_iff
    | unknown hkey' hnone hsound hrest =>
      exact .unknown hkey' hnone hsound (.field hkey hfield hnew hread hrest)
  | unknown hkey hnone hsound hrest =>
    cases hrest with
    | field hkey' hfield' hnew' hread' hrest =>
      exact .field hkey' hfield' hnew' hread' (.unknown hkey hnone hsound hrest)
    | unknown hkey' hnone' hsound' hrest =>
      exact .unknown hkey' hnone' hsound' (.unknown hkey hnone hsound hrest)

/-- **The order of the entries does not matter.** -/
theorem Reads.perm (hform : form.Commuting) {es' : List Entry} (hperm : es.Perm es')
    (h : form.Reads scope seen r es s) : form.Reads scope seen r es' s := by
  induction hperm generalizing seen r with
  | nil => exact h
  | cons e _ ih =>
    cases h with
    | field hkey hfield hnew hread hrest => exact .field hkey hfield hnew hread (ih hrest)
    | unknown hkey hnone hsound hrest => exact .unknown hkey hnone hsound (ih hrest)
  | swap e e' es => exact h.swap hform
  | trans _ _ ih ih' => exact ih' (ih h)

theorem find?_eq_none {name : String} (h : name ∉ form.fields.map (·.name)) :
    form.fields.find? (·.name == name) = none := by
  refine List.find?_eq_none.mpr fun field hfield heq => h ?_
  exact List.mem_map.mpr ⟨field, hfield, by simpa using heq⟩

/-- An entry that the record does not declare may be added. -/
theorem Reads.insert {key : List Char} {name : String} {value : Doc}
    (hkey : unescape key = some name.toList) (hnew : name ∉ form.fields.map (·.name))
    (hsound : value.isSound = true) (h : form.Reads scope seen r es s) :
    form.Reads scope seen r ((key, value) :: es) s :=
  .unknown hkey (find?_eq_none hnew) hsound h

/-- A value may be replaced by one that its field reads the same. -/
theorem Reads.replace {key : List Char} {name : String} {value value' : Doc} {field : Field ρ}
    (hkey : unescape key = some name.toList)
    (hfield : form.fields.find? (·.name == name) = some field)
    (hsame : ∀ r s, field.read scope value r = .ok s → field.read scope value' r = .ok s)
    (h : form.Reads scope seen r ((key, value) :: es) s) :
    form.Reads scope seen r ((key, value') :: es) s := by
  cases h with
  | field hkey' hfield' hnew hread hrest =>
    obtain rfl := String.toList_inj.mp (Option.some.inj (hkey'.symm.trans hkey))
    obtain rfl := Option.some.inj (hfield'.symm.trans hfield)
    exact .field hkey hfield hnew (hsame _ _ hread) hrest
  | unknown hkey' hnone hsound hrest =>
    obtain rfl := String.toList_inj.mp (Option.some.inj (hkey'.symm.trans hkey))
    cases hnone.symm.trans hfield

end RecordForm

/-! ## Records that share an object -/

namespace SharedForm

variable {form : SharedForm ρ σ} {scope : Scope} {es : List Entry} {r : ρ} {t : σ}

/-- The entry stands under the name of a field of the first record. -/
def isOwn (form : SharedForm ρ σ) (e : Entry) : Bool :=
  form.own.fields.any fun field => unescape e.1 == some field.name.toList

theorem isOwn_eq_isSome {key : List Char} {name : String}
    (hkey : unescape key = some name.toList) (value : Doc) :
    form.isOwn (key, value) = (form.own.fields.find? (·.name == name)).isSome := by
  rw [Bool.eq_iff_iff, isOwn, hkey, List.any_eq_true, List.find?_isSome]
  refine exists_congr fun field => and_congr_right fun _ => ?_
  rw [beq_iff_eq, beq_iff_eq, Option.some.injEq, String.toList_inj, eq_comm]

/-- The entries of the first record take it to `r`. All others can be buffered, and take the second
record to `t`. -/
structure Reads (form : SharedForm ρ σ) (scope : Scope) (es : List Entry) (r : ρ) (t : σ) :
    Prop where
  own : form.own.Reads scope [] form.own.initial (es.filter form.isOwn) r
  buffer : ∀ e ∈ es, form.isOwn e = false → e.2.buffer scope = .ok ()
  inner : form.inner.Reads .buffered [] form.inner.initial (es.filter (!form.isOwn ·)) t

theorem entries?_foldl (others : List Entry) (members : Members) :
    (others.foldl (fun rest (key, doc) => .member [] key [] doc rest) members).entries? =
      members.entries?.map (others.reverse ++ ·) := by
  induction others generalizing members with
  | nil => simp
  | cons e others ih =>
    rw [List.foldl_cons, ih, Members.entries?, Option.map_map, List.reverse_cons]
    congr 1
    funext later
    simp

/-- What the entries come to behind others that have been buffered, the last one first. -/
structure ReadsBehind (form : SharedForm ρ σ) (scope : Scope) (seen : List String) (record : ρ)
    (others es : List Entry) (r : ρ) (t : σ) : Prop where
  own : form.own.Reads scope seen record (es.filter form.isOwn) r
  buffer : ∀ e ∈ es, form.isOwn e = false → e.2.buffer scope = .ok ()
  inner : form.inner.Reads .buffered [] form.inner.initial
    (others.reverse ++ es.filter (!form.isOwn ·)) t

section

variable {seen : List String} {record x : ρ} {others : List Entry} {key : List Char} {name : String}
  {value : Doc}

theorem readsBehind_nil_iff : form.ReadsBehind scope seen record others [] r t ↔
    RecordForm.checkRequired seen form.own.fields = .ok () ∧ record = r ∧
      form.inner.Reads .buffered [] form.inner.initial others.reverse t := by
  constructor
  · rintro ⟨hown, -, hinner⟩
    cases hown with
    | done _ hcheck => exact ⟨hcheck, rfl, by simpa using hinner⟩
  · rintro ⟨hcheck, rfl, hinner⟩
    exact ⟨.done record hcheck, fun e he => absurd he List.not_mem_nil, by simpa using hinner⟩

/-- An entry of the first record is read. -/
theorem readsBehind_own_iff {field : Field ρ} (hkey : unescape key = some name.toList)
    (hfield : form.own.fields.find? (·.name == name) = some field) :
    form.ReadsBehind scope seen record others ((key, value) :: es) r t ↔
      name ∉ seen ∧ ∃ record', field.read scope value record = .ok record' ∧
        form.ReadsBehind scope (name :: seen) record' others es r t := by
  have hhere : form.isOwn (key, value) = true := by
    rw [isOwn_eq_isSome hkey, hfield, Option.isSome_some]
  have hothers : ((key, value) :: es).filter (!form.isOwn ·) = es.filter (!form.isOwn ·) :=
    List.filter_cons_of_neg (by simp [hhere])
  constructor
  · rintro ⟨hown, hbuffer, hinner⟩
    rw [List.filter_cons_of_pos hhere] at hown
    rw [hothers] at hinner
    cases hown with
    | field hkey' hfield' hnew hread hrest =>
      obtain rfl := String.toList_inj.mp (Option.some.inj (hkey'.symm.trans hkey))
      obtain rfl := Option.some.inj (hfield'.symm.trans hfield)
      exact ⟨hnew, _, hread, hrest, (List.forall_mem_cons.mp hbuffer).2, hinner⟩
    | unknown hkey' hnone =>
      obtain rfl := String.toList_inj.mp (Option.some.inj (hkey'.symm.trans hkey))
      cases hnone.symm.trans hfield
  · rintro ⟨hnew, record', hread, hown, hbuffer, hinner⟩
    refine ⟨?_, List.forall_mem_cons.mpr ⟨fun hother => ?_, hbuffer⟩, hothers ▸ hinner⟩
    · rw [List.filter_cons_of_pos hhere]
      exact .field hkey hfield hnew hread hown
    · cases hhere.symm.trans hother

/-- Any other entry is put to the buffered ones. -/
theorem readsBehind_other_iff (hkey : unescape key = some name.toList)
    (hnone : form.own.fields.find? (·.name == name) = none) :
    form.ReadsBehind scope seen record others ((key, value) :: es) r t ↔
      value.buffer scope = .ok () ∧
        form.ReadsBehind scope seen record ((key, value) :: others) es r t := by
  have hhere : form.isOwn (key, value) = false := by
    rw [isOwn_eq_isSome hkey, hnone, Option.isSome_none]
  have hown : ((key, value) :: es).filter form.isOwn = es.filter form.isOwn :=
    List.filter_cons_of_neg (by simp [hhere])
  have hothers : others.reverse ++ ((key, value) :: es).filter (!form.isOwn ·) =
      ((key, value) :: others).reverse ++ es.filter (!form.isOwn ·) := by
    rw [List.filter_cons_of_pos (by simp [hhere]), List.reverse_cons, List.append_assoc]
    rfl
  constructor
  · rintro ⟨hreads, hbuffer, hinner⟩
    obtain ⟨hvalue, hrest⟩ := List.forall_mem_cons.mp hbuffer
    exact ⟨hvalue hhere, hown ▸ hreads, hrest, hothers ▸ hinner⟩
  · rintro ⟨hvalue, hreads, hrest, hinner⟩
    exact ⟨hown ▸ hreads, List.forall_mem_cons.mpr ⟨fun _ => hvalue, hrest⟩, hothers ▸ hinner⟩

theorem ReadsBehind.exists_name
    (h : form.ReadsBehind scope seen record others ((key, value) :: es) r t) :
    ∃ name : String, unescape key = some name.toList := by
  cases hhere : form.isOwn (key, value) with
  | true =>
    have hmem : (key, value) ∈ ((key, value) :: es).filter form.isOwn :=
      List.mem_filter.mpr ⟨List.mem_cons_self, hhere⟩
    exact h.own.exists_name hmem
  | false =>
    have hmem : (key, value) ∈ ((key, value) :: es).filter (!form.isOwn ·) :=
      List.mem_filter.mpr ⟨List.mem_cons_self, by rw [hhere]; rfl⟩
    exact h.inner.exists_name (List.mem_append_right _ hmem)

theorem readMembers_eq_ok_iff {members : Members} :
    form.readMembers scope seen record others members = .ok x ↔
      ∃ es r t, members.entries? = some es ∧
        form.ReadsBehind scope seen record others es r t ∧ form.attach r t = x := by
  constructor
  · intro h
    induction members using Members.induct generalizing seen record others with
    | close sep =>
      obtain ⟨⟨⟩, hcheck, h⟩ := Except.bind_eq_ok_iff.mp h
      obtain ⟨t, hinner, heq⟩ := Except.bind_eq_ok_iff.mp h
      -- what has been buffered is read in the order of the text
      obtain ⟨es, hes, hreads⟩ := RecordForm.readMembers_eq_ok_iff.mp hinner
      rw [entries?_foldl] at hes
      obtain rfl : others.reverse = es := by simpa [Members.entries?] using hes
      exact ⟨[], record, t, rfl, readsBehind_nil_iff.mpr ⟨hcheck, rfl, hreads⟩, Except.ok.inj heq⟩
    | fault => cases h
    | member sep key colon value rest ih =>
      unfold readMembers at h
      obtain ⟨name, hname, h⟩ := Except.bind_eq_ok_iff.mp h
      have hkey := RecordForm.stringText_eq_ok_iff.mp hname
      split at h
      · rename_i field hfield
        obtain ⟨hseen, h⟩ := Except.guard_eq_ok_iff.mp h
        obtain ⟨record', hread, h⟩ := Except.bind_eq_ok_iff.mp h
        obtain ⟨es, r, t, hes, hreads, hx⟩ := ih h
        exact ⟨(key, value) :: es, r, t, by rw [Members.entries?, hes]; rfl,
          (readsBehind_own_iff hkey hfield).mpr ⟨by simpa using hseen, record', hread, hreads⟩, hx⟩
      · rename_i hnone
        obtain ⟨⟨⟩, hvalue, h⟩ := Except.bind_eq_ok_iff.mp h
        obtain ⟨es, r, t, hes, hreads, hx⟩ := ih h
        exact ⟨(key, value) :: es, r, t, by rw [Members.entries?, hes]; rfl,
          (readsBehind_other_iff hkey hnone).mpr ⟨hvalue, hreads⟩, hx⟩
  · rintro ⟨es, r, t, hes, hreads, rfl⟩
    induction members using Members.induct generalizing seen record others es with
    | close sep =>
      obtain rfl := Option.some.inj hes
      obtain ⟨hcheck, rfl, hinner⟩ := readsBehind_nil_iff.mp hreads
      refine Except.bind_eq_ok_iff.mpr ⟨(), hcheck, Except.bind_eq_ok_iff.mpr ⟨t, ?_, rfl⟩⟩
      refine RecordForm.readMembers_eq_ok_iff.mpr ⟨others.reverse, ?_, hinner⟩
      rw [entries?_foldl, Members.entries?, Option.map_some, List.append_nil]
    | fault => cases hes
    | member sep key colon value rest ih =>
      obtain ⟨later, hlater, rfl⟩ := Option.map_eq_some_iff.mp hes
      obtain ⟨name, hkey⟩ := hreads.exists_name
      rw [readMembers, RecordForm.stringText_eq_ok_iff.mpr hkey, Except.ok_bind]
      cases hfind : form.own.fields.find? (·.name == name) with
      | some field =>
        obtain ⟨hnew, record', hread, hrest⟩ := (readsBehind_own_iff hkey hfind).mp hreads
        refine Except.guard_eq_ok_iff.mpr ⟨by simpa using hnew, ?_⟩
        exact Except.bind_eq_ok_iff.mpr ⟨record', hread, ih _ hlater hrest⟩
      | none =>
        obtain ⟨hvalue, hrest⟩ := (readsBehind_other_iff hkey hfind).mp hreads
        exact Except.bind_eq_ok_iff.mpr ⟨(), hvalue, ih _ hlater hrest⟩

end

theorem decode_object_eq_ok_iff {members : Members} {x : ρ} :
    form.decode scope (.object members) = .ok x ↔ ∃ inner es r t, scope.enter = .ok inner ∧
      members.entries? = some es ∧ form.Reads inner es r t ∧ form.attach r t = x := by
  constructor
  · intro h
    obtain ⟨inner, henter, h⟩ := Except.bind_eq_ok_iff.mp h
    obtain ⟨es, r, t, hes, ⟨hown, hbuffer, hinner⟩, hx⟩ := readMembers_eq_ok_iff.mp h
    exact ⟨inner, es, r, t, henter, hes, ⟨hown, hbuffer, hinner⟩, hx⟩
  · rintro ⟨inner, es, r, t, henter, hes, ⟨hown, hbuffer, hinner⟩, hx⟩
    exact Except.bind_eq_ok_iff.mpr ⟨inner, henter,
      readMembers_eq_ok_iff.mpr ⟨es, r, t, hes, ⟨hown, hbuffer, hinner⟩, hx⟩⟩

/-- **The order of the entries does not matter**, whichever record they belong to. -/
theorem Reads.perm (hown : form.own.Commuting) (hinner : form.inner.Commuting) {es' : List Entry}
    (hperm : es.Perm es') (h : form.Reads scope es r t) : form.Reads scope es' r t where
  own := h.own.perm hown (hperm.filter _)
  buffer := fun e he => h.buffer e (hperm.mem_iff.mpr he)
  inner := h.inner.perm hinner (hperm.filter _)

/-- An entry that neither of the records declares may be added, if it can be buffered. -/
theorem Reads.insert {key : List Char} {name : String} {value : Doc}
    (hkey : unescape key = some name.toList) (hown : name ∉ form.own.fields.map (·.name))
    (hinner : name ∉ form.inner.fields.map (·.name)) (hbuffer : value.buffer scope = .ok ())
    (hsound : value.isSound = true) (h : form.Reads scope es r t) :
    form.Reads scope ((key, value) :: es) r t := by
  have hhere : form.isOwn (key, value) = false := by
    rw [isOwn_eq_isSome hkey, RecordForm.find?_eq_none hown, Option.isSome_none]
  refine ⟨?_, List.forall_mem_cons.mpr ⟨fun _ => hbuffer, h.buffer⟩, ?_⟩
  · rw [List.filter_cons_of_neg (by simp [hhere])]
    exact h.own
  · rw [List.filter_cons_of_pos (by simp [hhere])]
    exact h.inner.insert hkey hinner hsound

/-- A value of the second record may be replaced by one that its field reads the same. -/
theorem Reads.replace {key : List Char} {name : String} {value value' : Doc} {field : Field σ}
    (hkey : unescape key = some name.toList) (hown : name ∉ form.own.fields.map (·.name))
    (hfield : form.inner.fields.find? (·.name == name) = some field)
    (hbuffer : value.buffer scope = .ok () → value'.buffer scope = .ok ())
    (hsame : ∀ r s, field.read .buffered value r = .ok s → field.read .buffered value' r = .ok s)
    (h : form.Reads scope ((key, value) :: es) r t) :
    form.Reads scope ((key, value') :: es) r t := by
  have hother (value : Doc) : form.isOwn (key, value) = false := by
    rw [isOwn_eq_isSome hkey, RecordForm.find?_eq_none hown, Option.isSome_none]
  obtain ⟨hvalue, hrest⟩ := List.forall_mem_cons.mp h.buffer
  have hreads := h.own
  have hinner := h.inner
  rw [List.filter_cons_of_neg (by simp [hother])] at hreads
  rw [List.filter_cons_of_pos (by simp [hother])] at hinner
  refine ⟨?_, List.forall_mem_cons.mpr ⟨fun _ => hbuffer (hvalue (hother value)), hrest⟩, ?_⟩
  · rwa [List.filter_cons_of_neg (by simp [hother])]
  · rw [List.filter_cons_of_pos (by simp [hother])]
    exact hinner.replace hkey hfield hsame

end SharedForm

/-! ## Either kind of object -/

/-- The form of an object, which belongs to one record or is shared by two. -/
inductive ObjectForm (ρ : Type) : Type 1 where
  | single (form : RecordForm ρ)
  | shared {σ : Type} (form : SharedForm ρ σ)

namespace ObjectForm

def decode : ObjectForm ρ → Decoder ρ
  | single form => form.decode
  | shared form => form.decode

/-- The names that are declared, by either of the records. -/
def names : ObjectForm ρ → List String
  | single form => form.fields.map (·.name)
  | shared form => form.own.fields.map (·.name) ++ form.inner.fields.map (·.name)

/-- Members are buffered before they are read. -/
def buffers : ObjectForm ρ → Bool
  | single _ => false
  | shared _ => true

/-- The fields can be read in any order. -/
def Commuting : ObjectForm ρ → Prop
  | single form => form.Commuting
  | shared form => form.own.Commuting ∧ form.inner.Commuting

/-- What the entries of the object are read as. -/
def Reads : ObjectForm ρ → Scope → List Entry → ρ → Prop
  | single form, scope, es, x => form.Reads scope [] form.initial es x
  | shared form, scope, es, x => ∃ r t, form.Reads scope es r t ∧ form.attach r t = x

/-- Under a name, one value is read as another one is. A field of the second of two records reads
what has been buffered. -/
def ReadsSame : ObjectForm ρ → Scope → String → Doc → Doc → Prop
  | single form, scope, name, value, value' =>
    ∃ field, form.fields.find? (·.name == name) = some field ∧
      ∀ r s, field.read scope value r = .ok s → field.read scope value' r = .ok s
  | shared form, scope, name, value, value' =>
    name ∉ form.own.fields.map (·.name) ∧
      (value.buffer scope = .ok () → value'.buffer scope = .ok ()) ∧
      ∃ field, form.inner.fields.find? (·.name == name) = some field ∧
        ∀ r s, field.read .buffered value r = .ok s → field.read .buffered value' r = .ok s

variable {form : ObjectForm ρ} {scope : Scope} {es : List Entry} {x : ρ}

theorem decode_object_eq_ok_iff {members : Members} :
    form.decode scope (.object members) = .ok x ↔ ∃ inner es, scope.enter = .ok inner ∧
      members.entries? = some es ∧ form.Reads inner es x := by
  cases form with
  | single form => exact RecordForm.decode_object_eq_ok_iff
  | shared form =>
    constructor
    · intro h
      obtain ⟨inner, es, r, t, henter, hes, hreads, hx⟩ := SharedForm.decode_object_eq_ok_iff.mp h
      exact ⟨inner, es, henter, hes, r, t, hreads, hx⟩
    · rintro ⟨inner, es, henter, hes, r, t, hreads, hx⟩
      exact SharedForm.decode_object_eq_ok_iff.mpr ⟨inner, es, r, t, henter, hes, hreads, hx⟩

theorem Reads.perm (hform : form.Commuting) {es' : List Entry} (hperm : es.Perm es')
    (h : form.Reads scope es x) : form.Reads scope es' x := by
  cases form with
  | single form => exact RecordForm.Reads.perm hform hperm h
  | shared form =>
    obtain ⟨r, t, hreads, hx⟩ := h
    exact ⟨r, t, hreads.perm hform.1 hform.2 hperm, hx⟩

theorem Reads.insert {key : List Char} {name : String} {value : Doc}
    (hkey : unescape key = some name.toList) (hnew : name ∉ form.names)
    (hsound : value.isSound = true)
    (hbuffer : form.buffers = true → value.buffer scope = .ok ()) (h : form.Reads scope es x) :
    form.Reads scope ((key, value) :: es) x := by
  cases form with
  | single form => exact RecordForm.Reads.insert hkey hnew hsound h
  | shared form =>
    obtain ⟨r, t, hreads, hx⟩ := h
    have hown := fun hmem => hnew (List.mem_append_left _ hmem)
    have hinner := fun hmem => hnew (List.mem_append_right _ hmem)
    exact ⟨r, t, hreads.insert hkey hown hinner (hbuffer rfl) hsound, hx⟩

theorem Reads.replace {key : List Char} {name : String} {value value' : Doc}
    (hkey : unescape key = some name.toList) (hsame : form.ReadsSame scope name value value')
    (h : form.Reads scope ((key, value) :: es) x) :
    form.Reads scope ((key, value') :: es) x := by
  cases form with
  | single form =>
    obtain ⟨field, hfield, hread⟩ := hsame
    exact RecordForm.Reads.replace hkey hfield hread h
  | shared form =>
    obtain ⟨hown, hbuffer, field, hfield, hread⟩ := hsame
    obtain ⟨r, t, hreads, hx⟩ := h
    exact ⟨r, t, hreads.replace hkey hown hfield hbuffer hread, hx⟩

end ObjectForm

/-! ## Forms that read more -/

/-- The field `g` reads what `f` reads of values that nest less deep than a bound. -/
structure Field.Extends (bound : Nat) (f g : Field ρ) : Prop where
  name : g.name = f.name
  presence : g.presence = f.presence
  read : ∀ scope value r s, value.height < bound → f.read scope value r = .ok s →
    g.read scope value r = .ok s

theorem Field.Extends.refl (bound : Nat) (f : Field ρ) : f.Extends bound f :=
  ⟨rfl, rfl, fun _ _ _ _ _ h => h⟩

/-- The decoder `decode'` takes what `decode` takes of documents that nest less deep than a
bound. -/
def Decoder.Extends (bound : Nat) (decode decode' : Decoder α) : Prop :=
  ∀ scope doc x, doc.height < bound → decode scope doc = .ok x → decode' scope doc = .ok x

/-- No document nests less deep than not at all. -/
theorem Decoder.extends_zero (decode decode' : Decoder α) : Decoder.Extends 0 decode decode' :=
  fun _ _ _ hheight => absurd hheight (Nat.not_lt_zero _)

/-- Every decoder takes what one takes that always fails. -/
theorem Decoder.error_extends (bound : Nat) (fault : Fault) (decode : Decoder α) :
    Decoder.Extends bound (fun _ _ => .error fault) decode :=
  fun _ _ _ _ h => nomatch h

theorem Decoder.Extends.option {bound : Nat} {decode decode' : Decoder α}
    (h : Decoder.Extends bound decode decode') :
    Decoder.Extends bound (decodeOption decode) (decodeOption decode') := by
  intro scope doc x hheight hx
  rcases decodeOption_eq_ok_iff.mp hx with hnull | ⟨hne, a, ha, rfl⟩
  · exact decodeOption_eq_ok_iff.mpr (.inl hnull)
  · exact decodeOption_eq_ok_iff.mpr (.inr ⟨hne, a, h _ _ _ hheight ha, rfl⟩)

theorem Decoder.Extends.list {bound : Nat} {decode decode' : Decoder α}
    (h : Decoder.Extends bound decode decode') :
    Decoder.Extends bound (decodeList decode) (decodeList decode') := by
  intro scope doc xs hheight hxs
  obtain ⟨items, inner, values, rfl, henter, hvalues, hall⟩ := decodeList_eq_ok_iff.mp hxs
  refine decodeList_eq_ok_iff.mpr ⟨items, inner, values, rfl, henter, hvalues, ?_⟩
  have hheights : ∀ value ∈ values, value.height < bound := fun value hvalue =>
    Nat.lt_of_le_of_lt (Items.height_le hvalues hvalue) (Nat.lt_of_succ_lt hheight)
  refine ((List.forall₂_and_left _ _).mpr ⟨hheights, hall⟩).imp fun value x hvalue => ?_
  exact h _ _ _ hvalue.1 hvalue.2

theorem Field.of_extends {bound : Nat} {name : String} {presence : Presence}
    {decode decode' : Decoder α} {set : ρ → α → ρ} (h : Decoder.Extends bound decode decode') :
    (Field.of name presence decode set).Extends bound (.of name presence decode' set) := by
  refine ⟨rfl, rfl, fun scope value r s hheight hread => ?_⟩
  obtain ⟨x, hx, rfl⟩ := map_eq_ok_iff.mp hread
  exact Field.read_of (h _ _ _ hheight hx)

namespace RecordForm

/-- The form `form'` reads what `form` reads of documents whose parts nest less deep than a
bound. -/
structure Extends (bound : Nat) (form form' : RecordForm ρ) : Prop where
  initial : form'.initial = form.initial
  fields : List.Forall₂ (Field.Extends bound) form.fields form'.fields

variable {bound : Nat} {form form' : RecordForm ρ} {fields fields' : List (Field ρ)}
  {scope : Scope} {seen : List String} {r s : ρ} {es : List Entry}

theorem find?_of_extends (h : List.Forall₂ (Field.Extends bound) fields fields') (name : String) :
    (fields.find? (·.name == name) = none ∧ fields'.find? (·.name == name) = none) ∨
      ∃ f g, fields.find? (·.name == name) = some f ∧ fields'.find? (·.name == name) = some g ∧
        f.Extends bound g := by
  induction h with
  | nil => exact .inl ⟨rfl, rfl⟩
  | @cons f g _ _ hfield _ ih =>
    rw [List.find?_cons, List.find?_cons, hfield.name]
    cases f.name == name with
    | true => exact .inr ⟨f, g, rfl, rfl, hfield⟩
    | false => exact ih

theorem checkRequired_of_extends (h : List.Forall₂ (Field.Extends bound) fields fields') :
    checkRequired seen fields' = checkRequired seen fields := by
  induction h with
  | nil => rfl
  | cons hfield _ ih => rw [checkRequired, checkRequired, hfield.name, hfield.presence, ih]

theorem Reads.extends (hform : form.Extends bound form') (h : form.Reads scope seen r es s)
    (hheight : ∀ e ∈ es, e.2.height < bound) : form'.Reads scope seen r es s := by
  induction h with
  | done r hcheck => exact .done r (by rwa [checkRequired_of_extends hform.fields])
  | @field _ _ name _ _ _ _ _ _ hkey hfield hnew hread _ ih =>
    obtain ⟨hvalue, hrest⟩ := List.forall_mem_cons.mp hheight
    rcases find?_of_extends hform.fields name with ⟨hnone, -⟩ | ⟨f, g, hf, hg, hextends⟩
    · cases hnone.symm.trans hfield
    · obtain rfl := Option.some.inj (hf.symm.trans hfield)
      exact .field hkey hg hnew (hextends.read _ _ _ _ hvalue hread) (ih hrest)
  | @unknown _ _ name _ _ _ _ hkey hnone hsound _ ih =>
    obtain ⟨-, hrest⟩ := List.forall_mem_cons.mp hheight
    rcases find?_of_extends hform.fields name with ⟨-, hnone'⟩ | ⟨f, g, hf, -, -⟩
    · exact .unknown hkey hnone' hsound (ih hrest)
    · cases hnone.symm.trans hf

theorem checkLength_of_extends (h : List.Forall₂ (Field.Extends bound) fields fields') {index : Nat}
    (hlength : form.checkLength index fields = .ok ()) :
    form'.checkLength index fields' = .ok () := by
  induction h generalizing index with
  | nil => rfl
  | cons hfield _ ih =>
    unfold checkLength at hlength ⊢
    rw [hfield.presence]
    split at hlength
    · rename_i hdefaulted
      rw [if_pos hdefaulted]
      exact ih hlength
    · cases hlength

theorem readItems_of_extends (h : List.Forall₂ (Field.Extends bound) fields fields') {items : Items}
    (hheight : items.height < bound) {index : Nat}
    (hread : form.readItems scope index r fields items = .ok s) :
    form'.readItems scope index r fields' items = .ok s := by
  induction h generalizing items index r with
  | nil =>
    unfold readItems at hread
    obtain ⟨⟨⟩, hend, hread⟩ := Except.bind_eq_ok_iff.mp hread
    refine Except.bind_eq_ok_iff.mpr ⟨(), ?_, hread⟩
    cases items with
    | close sep => rfl
    | item sep value rest => cases scope <;> cases hend
    | fault => cases hend
  | cons hfield hfields ih =>
    cases items with
    | close sep =>
      obtain ⟨⟨⟩, hlength, hread⟩ := Except.bind_eq_ok_iff.mp hread
      exact Except.bind_eq_ok_iff.mpr
        ⟨(), checkLength_of_extends (.cons hfield hfields) hlength, hread⟩
    | fault => cases hread
    | item sep value rest =>
      obtain ⟨r', hvalue, hrest⟩ := Except.bind_eq_ok_iff.mp hread
      have hfirst := Nat.lt_of_le_of_lt (Nat.le_max_left value.height rest.height) hheight
      have hlater := Nat.lt_of_le_of_lt (Nat.le_max_right value.height rest.height) hheight
      exact Except.bind_eq_ok_iff.mpr
        ⟨r', hfield.read _ _ _ _ hfirst hvalue, ih hlater hrest⟩

theorem decode_of_extends (hform : form.Extends bound form') {doc : Doc}
    (hheight : doc.height ≤ bound) (h : form.decode scope doc = .ok s) :
    form'.decode scope doc = .ok s := by
  cases doc with
  | object members =>
    obtain ⟨inner, es, henter, hes, hreads⟩ := decode_object_eq_ok_iff.mp h
    refine decode_object_eq_ok_iff.mpr ⟨inner, es, henter, hes, ?_⟩
    rw [hform.initial]
    refine hreads.extends hform fun e he => ?_
    exact Nat.lt_of_le_of_lt (Members.height_le hes he) hheight
  | array items =>
    obtain ⟨inner, henter, hread⟩ := Except.bind_eq_ok_iff.mp h
    refine Except.bind_eq_ok_iff.mpr ⟨inner, henter, ?_⟩
    rw [hform.initial]
    exact readItems_of_extends hform.fields hheight hread
  | _ => exact absurd h wrongType_ne_ok

end RecordForm

/-- If the form of the second record reads more, so does the form of the shared object. -/
theorem SharedForm.decode_of_extends {bound : Nat} {own : RecordForm ρ} {attach : ρ → σ → ρ}
    {inner inner' : RecordForm σ} (hinner : inner.Extends bound inner') {scope : Scope} {doc : Doc}
    (hheight : doc.height ≤ bound) {x : ρ}
    (h : (SharedForm.mk own inner attach).decode scope doc = .ok x) :
    (SharedForm.mk own inner' attach).decode scope doc = .ok x := by
  cases doc with
  | object members =>
    obtain ⟨scope', es, r, t, henter, hes, hreads, hx⟩ := decode_object_eq_ok_iff.mp h
    refine decode_object_eq_ok_iff.mpr
      ⟨scope', es, r, t, henter, hes, ⟨hreads.own, hreads.buffer, ?_⟩, hx⟩
    show inner'.Reads _ _ inner'.initial _ _
    rw [hinner.initial]
    refine hreads.inner.extends hinner fun e he => ?_
    exact Nat.lt_of_le_of_lt (Members.height_le hes (List.mem_of_mem_filter he)) hheight
  | _ => exact absurd h wrongType_ne_ok

end Bindery.Json
