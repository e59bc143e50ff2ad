import Mathlib.Data.List.Forall2

/-!
# Results of computations that may fail

What a computation that gives a value has done on the way: `Except.bind_eq_ok_iff` takes one step
apart, `Except.mem_of_mapM_eq_ok` tells what became of each member of a list. A computation that
goes through things in a row `Except.StopsAtFirst` bad one, or gives a good value. Two computations
are `Except.Alike` if they fail with one error or give values that are related.
-/

namespace Bindery

variable {ε α β : Type}

theorem Except.bind_eq_ok_iff {x : Except ε α} {f : α → Except ε β} {b : β} :
    x >>= f = .ok b ↔ ∃ a, x = .ok a ∧ f a = .ok b := by
  cases x with
  | error e =>
    constructor
    · intro h
      cases h
    · rintro ⟨a, ha, -⟩
      cases ha
  | ok a =>
    constructor
    · intro h
      exact ⟨a, rfl, h⟩
    · rintro ⟨a', ha, h⟩
      cases ha
      exact h

theorem Except.ok_bind (a : α) (f : α → Except ε β) : (.ok a : Except ε α) >>= f = f a := rfl

/-- A computation that goes on behind a check has passed it. -/
theorem Except.guard_eq_ok_iff {c : Prop} [Decidable c] {e : ε} {f : Unit → Except ε α} {a : α} :
    (if c then throw e >>= f else f ()) = .ok a ↔ ¬ c ∧ f () = .ok a := by
  split
  · rename_i hc
    exact ⟨fun h => (by cases h), fun h => absurd hc h.1⟩
  · rename_i hc
    exact ⟨fun h => ⟨hc, h⟩, fun h => h.2⟩

theorem Except.eq_ok_of_isOk {x : Except ε α} (h : x.isOk = true) (a : α) :
    x = .ok (x.toOption.getD a) := by
  cases x with
  | error e => cases h
  | ok b => rfl

/-- An error put into other words is no success. -/
theorem Except.mapError_eq_ok_iff {ε' : Type} {f : ε → ε'} {x : Except ε α} {a : α} :
    x.mapError f = .ok a ↔ x = .ok a := by
  cases x with
  | error e =>
    constructor
    · intro h
      cases h
    · intro h
      cases h
  | ok a' =>
    constructor
    · intro h
      rw [Except.ok.inj h]
    · intro h
      rw [Except.ok.inj h]
      rfl

/-- A list of computations succeeds if each of them does. -/
theorem Except.mapM_eq_ok_iff {f : α → Except ε β} {xs : List α} {ys : List β} :
    xs.mapM f = .ok ys ↔ List.Forall₂ (fun x y => f x = .ok y) xs ys := by
  induction xs generalizing ys with
  | nil =>
    rw [List.mapM_nil, List.forall₂_nil_left_iff]
    constructor
    · intro h
      exact (Except.ok.inj h).symm
    · rintro rfl
      rfl
  | cons x xs ih =>
    rw [List.mapM_cons, bind_eq_ok_iff, List.forall₂_cons_left_iff]
    constructor
    · rintro ⟨y, hy, h⟩
      obtain ⟨rest, hrest, h⟩ := bind_eq_ok_iff.mp h
      exact ⟨y, rest, hy, ih.mp hrest, (Except.ok.inj h).symm⟩
    · rintro ⟨y, rest, hy, hrest, rfl⟩
      exact ⟨y, hy, bind_eq_ok_iff.mpr ⟨rest, ih.mpr hrest, rfl⟩⟩

theorem Except.exists_mapM_eq_ok {f : α → Except ε β} {xs : List α}
    (h : ∀ x ∈ xs, ∃ y, f x = .ok y) : ∃ ys, xs.mapM f = .ok ys := by
  induction xs with
  | nil => exact ⟨[], rfl⟩
  | cons x xs ih =>
    obtain ⟨y, hy⟩ := h x List.mem_cons_self
    obtain ⟨ys, hys⟩ := ih fun x' hx' => h x' (List.mem_cons_of_mem _ hx')
    refine ⟨y :: ys, mapM_eq_ok_iff.mpr (.cons hy (mapM_eq_ok_iff.mp hys))⟩

/-- Each member of a list has given one of the values. -/
theorem Except.mem_of_mapM_eq_ok {f : α → Except ε β} {xs : List α} {ys : List β}
    (h : xs.mapM f = .ok ys) {x : α} (hx : x ∈ xs) : ∃ y ∈ ys, f x = .ok y := by
  induction xs generalizing ys with
  | nil => exact absurd hx List.not_mem_nil
  | cons head tail ih =>
    rw [List.mapM_cons] at h
    obtain ⟨first, hfirst, h⟩ := bind_eq_ok_iff.mp h
    obtain ⟨rest, hrest, h⟩ := bind_eq_ok_iff.mp h
    cases h
    rcases List.mem_cons.mp hx with rfl | htail
    · exact ⟨first, List.mem_cons_self, hfirst⟩
    · obtain ⟨y, hy, heq⟩ := ih hrest htail
      exact ⟨y, List.mem_cons_of_mem _ hy, heq⟩

/-- Each of the values has been given by a member of the list. -/
theorem Except.mem_of_mem_mapM {f : α → Except ε β} {xs : List α} {ys : List β}
    (h : xs.mapM f = .ok ys) {y : β} (hy : y ∈ ys) : ∃ x ∈ xs, f x = .ok y := by
  induction xs generalizing ys with
  | nil =>
    obtain rfl := Except.ok.inj h
    exact absurd hy List.not_mem_nil
  | cons head tail ih =>
    rw [List.mapM_cons] at h
    obtain ⟨first, hfirst, h⟩ := bind_eq_ok_iff.mp h
    obtain ⟨rest, hrest, h⟩ := bind_eq_ok_iff.mp h
    cases h
    rcases List.mem_cons.mp hy with rfl | hy
    · exact ⟨head, List.mem_cons_self, hfirst⟩
    · obtain ⟨x, hx, heq⟩ := ih hrest hy
      exact ⟨x, List.mem_cons_of_mem _ hx, heq⟩

/-! ## Computations that fail -/

/-- Whatever a computation fails with has a property. -/
def Except.FailsWith (p : ε → Prop) (x : Except ε α) : Prop := ∀ e, x = .error e → p e

/-- A list of computations fails with the failure of the first member that has none. -/
theorem Except.mapM_eq_error_iff {f : α → Except ε β} {xs : List α} {e : ε} :
    xs.mapM f = .error e ↔ ∃ before x after ys,
      xs = before ++ x :: after ∧ before.mapM f = .ok ys ∧ f x = .error e := by
  induction xs with
  | nil =>
    constructor
    · intro h
      cases h
    · rintro ⟨before, x, after, ys, h, -⟩
      cases before <;> cases h
  | cons x xs ih =>
    rw [List.mapM_cons]
    constructor
    · intro h
      cases hx : f x with
      | error e' =>
        rw [hx] at h
        obtain rfl : e' = e := Except.error.inj h
        exact ⟨[], x, xs, [], rfl, rfl, hx⟩
      | ok y =>
        rw [hx] at h
        cases hrest : xs.mapM f with
        | ok ys =>
          rw [hrest] at h
          cases h
        | error e' =>
          rw [hrest] at h
          obtain rfl : e' = e := Except.error.inj h
          obtain ⟨before, x', after, ys, rfl, hbefore, hx'⟩ := ih.mp hrest
          refine ⟨x :: before, x', after, y :: ys, rfl, ?_, hx'⟩
          rw [List.mapM_cons, hx, hbefore]
          rfl
    · rintro ⟨before, x', after, ys, hsplit, hbefore, hx'⟩
      cases before with
      | nil =>
        obtain ⟨rfl, rfl⟩ := List.cons.inj hsplit
        rw [hx']
        rfl
      | cons b before =>
        obtain ⟨rfl, rfl⟩ := List.cons.inj hsplit
        rw [List.mapM_cons] at hbefore
        obtain ⟨y, hy, hbefore⟩ := bind_eq_ok_iff.mp hbefore
        obtain ⟨rest, hrest, -⟩ := bind_eq_ok_iff.mp hbefore
        rw [hy, ih.mpr ⟨before, x', after, rest, rfl, hrest, hx'⟩]
        rfl

/-! ## Computations that go through things in a row -/

section StopsAtFirst

variable {σ γ : Type} {bad : σ → ε → Prop} {good : α → Prop} {items items' : List σ}
  {x : Except ε α}

/-- How a computation ends that goes through some things in a row: with an error of the first bad
one, or with a good value if there is none. -/
inductive Except.StopsAtFirst (bad : σ → ε → Prop) (good : α → Prop) :
    List σ → Except ε α → Prop where
  | ok {items : List σ} {a : α} (hnone : ∀ i ∈ items, ∀ e, ¬ bad i e) (ha : good a) :
      StopsAtFirst bad good items (.ok a)
  | error {before after : List σ} {i : σ} {e : ε} (hbefore : ∀ i' ∈ before, ∀ e', ¬ bad i' e')
      (hbad : bad i e) : StopsAtFirst bad good (before ++ i :: after) (.error e)

namespace Except.StopsAtFirst

theorem pure {a : α} (ha : good a) : StopsAtFirst bad good [] (.ok a) :=
  .ok (fun _ hi => absurd hi List.not_mem_nil) ha

theorem head {i : σ} {e : ε} (hbad : bad i e) :
    StopsAtFirst bad good (i :: items) (.error e) := by
  show StopsAtFirst bad good ([] ++ i :: items) (.error e)
  exact .error (fun _ hi => absurd hi List.not_mem_nil) hbad

theorem cons {i : σ} (hi : ∀ e, ¬ bad i e) (h : StopsAtFirst bad good items x) :
    StopsAtFirst bad good (i :: items) x := by
  cases h with
  | ok hnone ha => exact .ok (List.forall_mem_cons.mpr ⟨hi, hnone⟩) ha
  | error hbefore hbad => exact .error (List.forall_mem_cons.mpr ⟨hi, hbefore⟩) hbad

/-- What is done with a good value goes on through the things that come next. -/
theorem bind {good' : β → Prop} {f : α → Except ε β} (h : StopsAtFirst bad good items x)
    (hf : ∀ a, good a → StopsAtFirst bad good' items' (f a)) :
    StopsAtFirst bad good' (items ++ items') (x >>= f) := by
  cases h with
  | error hbefore hbad =>
    rw [List.append_assoc, List.cons_append]
    exact .error hbefore hbad
  | @ok _ a hnone ha =>
    -- the things so far were good, so the first bad one is that of what comes next
    have hnext := hf a ha
    show StopsAtFirst bad good' (items ++ items') (f a)
    generalize f a = y at hnext ⊢
    cases hnext with
    | ok hnone' hb =>
      refine .ok (fun i hi => ?_) hb
      exact (List.mem_append.mp hi).elim (hnone i) (hnone' i)
    | error hbefore hbad =>
      rw [← List.append_assoc]
      refine .error (fun i hi => ?_) hbad
      exact (List.mem_append.mp hi).elim (hnone i) (hbefore i)

/-- What comes behind a computation and always gives a value goes through nothing. -/
theorem bind_ok {good' : β → Prop} {f : α → β} (h : StopsAtFirst bad good items x)
    (hf : ∀ a, good a → good' (f a)) :
    StopsAtFirst bad good' items (x >>= fun a => .ok (f a)) := by
  have hbind : StopsAtFirst bad good' (items ++ []) (x >>= fun a => .ok (f a)) :=
    h.bind fun a ha => pure (hf a ha)
  rwa [List.append_nil] at hbind

theorem map {good' : β → Prop} {f : α → β} (h : StopsAtFirst bad good items x)
    (hf : ∀ a, good a → good' (f a)) : StopsAtFirst bad good' items (f <$> x) := by
  cases h with
  | ok hnone ha => exact .ok hnone (hf _ ha)
  | error hbefore hbad => exact .error hbefore hbad

/-- A list of computations goes through what its members go through, and its values are good if
each is for its member. -/
theorem mapM {f : γ → Except ε β} {rel : γ → β → Prop} {cs : List γ} {through : γ → List σ}
    (h : ∀ c ∈ cs, StopsAtFirst bad (rel c) (through c) (f c)) :
    StopsAtFirst bad (List.Forall₂ rel cs) (cs.flatMap through) (cs.mapM f) := by
  induction cs with
  | nil => exact pure .nil
  | cons c cs ih =>
    rw [List.mapM_cons, List.flatMap_cons]
    have hrest := ih fun c' hc' => h c' (List.mem_cons_of_mem _ hc')
    exact (h c List.mem_cons_self).bind fun y hy => hrest.bind_ok fun ys hys => .cons hy hys

/-- It gives a value if and only if nothing is bad. -/
theorem exists_ok_iff (h : StopsAtFirst bad good items x) :
    (∃ a, x = .ok a) ↔ ∀ i ∈ items, ∀ e, ¬ bad i e := by
  cases h with
  | @ok _ a hnone ha => exact ⟨fun _ => hnone, fun _ => ⟨a, rfl⟩⟩
  | @error before after i e _ hbad =>
    constructor
    · rintro ⟨a, ha⟩
      cases ha
    · intro hnone
      exact absurd hbad (hnone i (by simp) e)

theorem good_of_ok {a : α} (h : StopsAtFirst bad good items (.ok a)) : good a := by
  cases h with
  | ok _ ha => exact ha

theorem exists_of_error {e : ε} (h : StopsAtFirst bad good items (.error e)) :
    ∃ before i after, items = before ++ i :: after ∧ (∀ i' ∈ before, ∀ e', ¬ bad i' e') ∧
      bad i e := by
  cases h with
  | error hbefore hbad => exact ⟨_, _, _, rfl, hbefore, hbad⟩

end Except.StopsAtFirst

end StopsAtFirst

/-! ## Computations that end alike -/

/-- Two computations fail with the same error, or both give a value and the values are related. -/
inductive Except.Alike {α' : Type} (R : α → α' → Prop) : Except ε α → Except ε α' → Prop
  | error (e : ε) : Alike R (.error e) (.error e)
  | ok {a : α} {a' : α'} (h : R a a') : Alike R (.ok a) (.ok a')

theorem Except.alike_of_map_eq {f : α → β} {x y : Except ε α} (h : f <$> x = f <$> y) :
    Alike (fun a b => f a = f b) x y := by
  cases x with
  | error e =>
    cases y with
    | error e' =>
      obtain rfl := Except.error.inj h
      exact .error e
    | ok b => cases h
  | ok a =>
    cases y with
    | error e' => cases h
    | ok b => exact .ok (Except.ok.inj h)

/-- What follows computations that end alike ends alike if it does on the values they give. -/
theorem Except.alike_bind {α' β' : Type} {R : α → α' → Prop} {S : β → β' → Prop} {x : Except ε α}
    {y : Except ε α'} {f : α → Except ε β} {g : α' → Except ε β'} (h : Alike R x y)
    (hnext : ∀ a a', x = .ok a → y = .ok a' → R a a' → Alike S (f a) (g a')) :
    Alike S (x >>= f) (y >>= g) := by
  cases h with
  | error e => exact .error e
  | ok hvalue => exact hnext _ _ rfl rfl hvalue

/-- Lists of computations end alike if their members do. -/
theorem Except.alike_mapM {α' β' : Type} {R : β → β' → Prop} {f : α → Except ε β}
    {g : α' → Except ε β'} {xs : List α} {ys : List α'}
    (h : List.Forall₂ (fun x y => Alike R (f x) (g y)) xs ys) :
    Alike (List.Forall₂ R) (xs.mapM f) (ys.mapM g) := by
  induction h with
  | nil => exact .ok .nil
  | @cons x y xs ys hhead _ ih =>
    rw [List.mapM_cons, List.mapM_cons]
    refine alike_bind hhead fun _ _ _ _ hfirst => ?_
    exact alike_bind ih fun _ _ _ _ hrest => .ok (.cons hfirst hrest)

theorem forall₂_of_map_eq {γ : Type} {f : α → γ} {g : β → γ} {xs : List α} {ys : List β}
    (h : xs.map f = ys.map g) : List.Forall₂ (fun x y => f x = g y) xs ys := by
  rw [← List.forall₂_map_right_iff (R := fun x c => f x = c), ← List.forall₂_map_left_iff, ← h,
    List.forall₂_same]
  exact fun _ _ => rfl

/-- In related lists, every member of the second is related to one of the first. -/
theorem exists_of_forall₂_of_mem {R : α → β → Prop} {xs : List α} {ys : List β}
    (h : List.Forall₂ R xs ys) {y : β} (hy : y ∈ ys) : ∃ x ∈ xs, R x y := by
  induction h with
  | nil => exact absurd hy List.not_mem_nil
  | @cons x y' xs ys hfirst _ ih =>
    rcases List.mem_cons.mp hy with rfl | hrest
    · exact ⟨x, List.mem_cons_self, hfirst⟩
    · obtain ⟨z, hz, hrelated⟩ := ih hrest
      exact ⟨z, List.mem_cons_of_mem _ hz, hrelated⟩

end Bindery
