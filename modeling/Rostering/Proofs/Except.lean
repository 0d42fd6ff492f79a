import Mathlib

/-!
# Results that succeed and results that fail

What has to hold for a computation that may fail to give a value: one lemma for each way such
computations are put together. Proofs take a successful run apart with them from the outside in,
and so never unfold the bookkeeping of `Except`. `FailsWith` looks at the other outcome: it says of
which sort the failures of a computation are, and has a lemma for each way to put computations
together as well; and so has `Corresponds`, which compares two computations.
-/

namespace Rostering

universe u v

variable {ε : Type u} {ε' : Type u} {α β : Type v}

/-! ## Single steps -/

theorem pure_eq_ok {a b : α} : (pure a : Except ε α) = .ok b ↔ a = b := by
  simp [pure, Except.pure]

theorem throw_ne_ok {e : ε} {a : α} : (throw e : Except ε α) ≠ .ok a := by
  simp [throw, throwThe, MonadExceptOf.throw]

/-- A sequence succeeds when its first part does and its second part does on what that gave. -/
theorem bind_eq_ok {x : Except ε α} {f : α → Except ε β} {b : β} :
    x >>= f = .ok b ↔ ∃ a, x = .ok a ∧ f a = .ok b := by
  cases x <;> simp [bind, Except.bind]

theorem pure_ne_error {a : α} {e : ε} : (pure a : Except ε α) ≠ .error e := by
  simp [pure, Except.pure]

/-- A sequence fails as its first part does, or as its second part does on what the first gave. -/
theorem bind_eq_error {x : Except ε α} {f : α → Except ε β} {e : ε} :
    x >>= f = .error e ↔ x = .error e ∨ ∃ a, x = .ok a ∧ f a = .error e := by
  cases x <;> simp [bind, Except.bind]

theorem bind_succeeds {x : Except ε α} {f : α → Except ε β} {a : α} (ha : x = .ok a)
    (hf : ∃ b, f a = .ok b) : ∃ b, x >>= f = .ok b := by
  obtain ⟨b, hb⟩ := hf
  exact ⟨b, bind_eq_ok.mpr ⟨a, ha, hb⟩⟩

/-- Two sequences with one first part are the same if they go on in the same way. -/
theorem bind_congr_ok {x : Except ε α} {f g : α → Except ε β} (h : ∀ a, x = .ok a → f a = g a) :
    x >>= f = x >>= g := by
  cases x with
  | error e => rfl
  | ok a => exact h a rfl

theorem map_bind_eq {γ : Type v} {x : Except ε α} {f : α → β} {g : β → Except ε γ} :
    x.map f >>= g = x >>= fun a => g (f a) := by
  cases x <;> rfl

theorem map_map {γ : Type v} (x : Except ε α) (f : α → β) (g : β → γ) :
    (x.map f).map g = x.map fun a => g (f a) := by
  cases x <;> rfl

theorem map_eq_ok {x : Except ε α} {f : α → β} {b : β} :
    x.map f = .ok b ↔ ∃ a, x = .ok a ∧ f a = b := by
  cases x <;> simp [Except.map]

theorem mapError_eq_ok {x : Except ε α} {f : ε → ε'} {a : α} :
    x.mapError f = .ok a ↔ x = .ok a := by
  cases x <;> simp [Except.mapError]

theorem mapError_eq_error {x : Except ε α} {f : ε → ε'} {e : ε'} :
    x.mapError f = .error e ↔ ∃ e', x = .error e' ∧ f e' = e := by
  cases x <;> simp [Except.mapError]

theorem eq_ok_of_toOption {x : Except ε α} {a : α} (hx : x.toOption = some a) : x = .ok a := by
  cases x with
  | error e => cases hx
  | ok b =>
      cases hx
      rfl

/-! ## Lists -/

/-- Two runs over a list are the same if they do the same with each item. Induction on the list. -/
theorem mapM_congr {f g : α → Except ε β} {l : List α} (h : ∀ a ∈ l, f a = g a) :
    l.mapM f = l.mapM g := by
  induction l with
  | nil => rfl
  | cons a l ih =>
      rw [List.mapM_cons, List.mapM_cons, h a List.mem_cons_self,
        ih fun b hb => h b (List.mem_cons_of_mem a hb)]

/-- Running over a list succeeds when every item does, and the results are theirs. Induction on the
list. -/
theorem mapM_eq_ok {f : α → Except ε β} {l : List α} {r : List β} :
    l.mapM f = .ok r ↔ List.Forall₂ (fun a b => f a = .ok b) l r := by
  induction l generalizing r with
  | nil =>
      rw [List.mapM_nil, pure_eq_ok, List.forall₂_nil_left_iff]
      exact eq_comm
  | cons a l ih =>
      simp only [List.mapM_cons, bind_eq_ok, pure_eq_ok, ih, List.forall₂_cons_left_iff]
      constructor
      · rintro ⟨b, hb, bs, hbs, rfl⟩
        exact ⟨b, bs, hb, hbs, rfl⟩
      · rintro ⟨b, bs, hb, hbs, rfl⟩
        exact ⟨b, hb, bs, hbs, rfl⟩

/-- Running over a list succeeds exactly if it does on every item. Induction on the list. -/
theorem mapM_succeeds_iff {f : α → Except ε β} {l : List α} :
    (∃ r, l.mapM f = .ok r) ↔ ∀ a ∈ l, ∃ b, f a = .ok b := by
  induction l with
  | nil => simp [pure_eq_ok]
  | cons a l ih =>
      rw [List.forall_mem_cons, ← ih]
      simp only [List.mapM_cons, bind_eq_ok, pure_eq_ok]
      constructor
      · rintro ⟨_, b, hb, bs, hbs, -⟩
        exact ⟨⟨b, hb⟩, bs, hbs⟩
      · rintro ⟨⟨b, hb⟩, bs, hbs⟩
        exact ⟨b :: bs, b, hb, bs, hbs, rfl⟩

/-- Running over a list fails as the first item does that fails. Induction on the list. The items
before it have succeeded, and those behind it are not looked at. -/
theorem mapM_eq_error {f : α → Except ε β} {l : List α} {e : ε} :
    l.mapM f = .error e ↔ ∃ before a after, l = before ++ a :: after
      ∧ (∀ b ∈ before, ∃ r, f b = .ok r) ∧ f a = .error e := by
  induction l with
  | nil => simp [pure, Except.pure]
  | cons first rest ih =>
      simp only [List.mapM_cons, bind_eq_error, pure_ne_error, and_false, exists_false, or_false,
        ih]
      -- either the first item fails, and nothing is before it, or one of the rest does
      constructor
      · rintro (hfirst | ⟨r, hr, before, a, after, rfl, hbefore, ha⟩)
        · exact ⟨[], first, rest, rfl, by simp, hfirst⟩
        · exact ⟨first :: before, a, after, rfl,
            List.forall_mem_cons.mpr ⟨⟨r, hr⟩, hbefore⟩, ha⟩
      · rintro ⟨before, a, after, hl, hbefore, ha⟩
        cases before with
        | nil =>
            cases hl
            exact Or.inl ha
        | cons b before =>
            cases hl
            obtain ⟨⟨r, hr⟩, hbefore⟩ := List.forall_mem_cons.mp hbefore
            exact Or.inr ⟨r, hr, before, a, after, rfl, hbefore, ha⟩

/-- Whatever is on the right is related to something on the left. -/
theorem exists_of_mem_forall₂ {α : Type u} {β : Type v} {r : α → β → Prop} {as : List α}
    {bs : List β} (h : List.Forall₂ r as bs) {b : β} (hb : b ∈ bs) : ∃ a ∈ as, r a b := by
  induction h with
  | nil => exact absurd hb List.not_mem_nil
  | cons hhead _ ih =>
      cases List.mem_cons.mp hb with
      | inl heq => exact ⟨_, List.mem_cons_self, heq ▸ hhead⟩
      | inr htail =>
          obtain ⟨a, ha, hab⟩ := ih htail
          exact ⟨a, List.mem_cons_of_mem _ ha, hab⟩

/-- Every result of a run over a list comes from one of the items. -/
theorem exists_of_mem_mapM {f : α → Except ε β} {l : List α} {r : List β}
    (hrun : l.mapM f = .ok r) {b : β} (hb : b ∈ r) : ∃ a ∈ l, f a = .ok b :=
  exists_of_mem_forall₂ (mapM_eq_ok.mp hrun) hb

/-- What an item gives is among the results of the run. -/
theorem mem_of_mapM {f : α → Except ε β} {l : List α} {r : List β} (hrun : l.mapM f = .ok r)
    {a : α} (ha : a ∈ l) {b : β} (hb : f a = .ok b) : b ∈ r := by
  obtain ⟨found, hfound, hgives⟩ := exists_of_mem_forall₂ (mapM_eq_ok.mp hrun).flip ha
  rw [hb] at hgives
  cases hgives
  exact hfound

/-! ## Failures of one sort -/

/-- Whatever the computation fails with is of the sort. -/
def FailsWith (E : ε → Prop) (x : Except ε α) : Prop := ∀ e, x = .error e → E e

namespace FailsWith

variable {E : ε → Prop} {E' : ε' → Prop} {x : Except ε α}

theorem of_pure (E : ε → Prop) (a : α) : FailsWith E (pure a) :=
  fun _ h => absurd h pure_ne_error

theorem of_throw {e : ε} (he : E e) : FailsWith E (throw e : Except ε α) := by
  intro e' h
  cases h
  exact he

theorem mono {F : ε → Prop} (hx : FailsWith E x) (h : ∀ e, E e → F e) : FailsWith F x :=
  fun e he => h e (hx e he)

/-- In a sequence the second part only has to be looked at for what the first part gives. -/
theorem bind {f : α → Except ε β} (hx : FailsWith E x)
    (hf : ∀ a, x = .ok a → FailsWith E (f a)) : FailsWith E (x >>= f) := by
  intro e h
  rcases bind_eq_error.mp h with hfirst | ⟨a, ha, hsecond⟩
  · exact hx e hfirst
  · exact hf a ha e hsecond

theorem map {f : α → β} (hx : FailsWith E x) : FailsWith E (x.map f) := by
  intro e h
  cases x with
  | error e' =>
      cases h
      exact hx e rfl
  | ok a => cases h

theorem mapError {f : ε → ε'} (hx : FailsWith (fun e => E' (f e)) x) :
    FailsWith E' (x.mapError f) := by
  intro e h
  cases x with
  | error e' =>
      cases h
      exact hx e' rfl
  | ok a => cases h

theorem mapM {f : α → Except ε β} {l : List α} (hf : ∀ a ∈ l, FailsWith E (f a)) :
    FailsWith E (l.mapM f) := by
  intro e h
  obtain ⟨before, a, after, rfl, -, ha⟩ := mapM_eq_error.mp h
  exact hf a (List.mem_append_right before List.mem_cons_self) e ha

theorem forM {f : α → Except ε PUnit} {l : List α} (hf : ∀ a ∈ l, FailsWith E (f a)) :
    FailsWith E (l.forM f) := by
  induction l with
  | nil => exact of_pure E _
  | cons a l ih =>
      have hrest := ih fun b hb => hf b (List.mem_cons_of_mem a hb)
      show FailsWith E (f a >>= fun _ => l.forM f)
      exact bind (hf a List.mem_cons_self) fun _ _ => hrest

/-- Folding fails as one of its steps does. Induction on the list, for any start. -/
theorem foldlM {f : β → α → Except ε β} {l : List α} (hf : ∀ b, ∀ a ∈ l, FailsWith E (f b a)) :
    ∀ b, FailsWith E (l.foldlM f b) := by
  induction l with
  | nil => exact fun b => of_pure E b
  | cons a l ih =>
      intro b
      rw [List.foldlM_cons]
      exact bind (hf b a List.mem_cons_self) fun b' _ =>
        ih (fun b a ha => hf b a (List.mem_cons_of_mem _ ha)) b'

end FailsWith

/-! ## Results that correspond -/

/-- Two computations have corresponding results: both fail with one error, or give values that
correspond. -/
inductive Corresponds (R : α → β → Prop) : Except ε α → Except ε β → Prop
  | error (e : ε) : Corresponds R (.error e) (.error e)
  | ok {a : α} {b : β} (h : R a b) : Corresponds R (.ok a) (.ok b)

namespace Corresponds

variable {α' β' : Type v} {R : α → β → Prop} {S : α' → β' → Prop} {x : Except ε α} {y : Except ε β}

theorem mono {S : α → β → Prop} (h : Corresponds R x y) (hS : ∀ a b, R a b → S a b) :
    Corresponds S x y := by
  cases h with
  | error e => exact .error e
  | ok h => exact .ok (hS _ _ h)

/-- In sequences the second parts have to correspond on what the first parts give. -/
theorem bind (h : Corresponds R x y) {f : α → Except ε α'} {g : β → Except ε β'}
    (hf : ∀ a b, R a b → Corresponds S (f a) (g b)) : Corresponds S (x >>= f) (y >>= g) := by
  cases h with
  | error e => exact .error e
  | ok h => exact hf _ _ h

/-- Two sequences with one first part only differ in what follows. -/
theorem bind_same {f : α → Except ε α'} {g : α → Except ε β'}
    (hf : ∀ a, x = .ok a → Corresponds S (f a) (g a)) : Corresponds S (x >>= f) (x >>= g) := by
  cases x with
  | error e => exact .error e
  | ok a => exact hf a rfl

theorem mapError (h : Corresponds R x y) (f : ε → ε') :
    Corresponds R (x.mapError f) (y.mapError f) := by
  cases h with
  | error e => exact .error (f e)
  | ok h => exact .ok h

/-- A result corresponds to what is made of it. -/
theorem of_map (x : Except ε α) (f : α → β) :
    Corresponds (fun a b => x = .ok a ∧ b = f a) x (x.map f) := by
  cases x with
  | error e => exact .error e
  | ok a => exact .ok ⟨rfl, rfl⟩

/-- Foldings correspond if each step keeps up the correspondence. Induction on the list, for any
start. -/
theorem foldlM {γ : Type u} {f : α → γ → Except ε α} {g : β → γ → Except ε β} {l : List γ}
    (hf : ∀ c ∈ l, ∀ a b, R a b → Corresponds R (f a c) (g b c)) :
    ∀ {a : α} {b : β}, R a b → Corresponds R (l.foldlM f a) (l.foldlM g b) := by
  induction l with
  | nil => exact fun h => .ok h
  | cons c l ih =>
      intro a b h
      rw [List.foldlM_cons, List.foldlM_cons]
      exact bind (hf c List.mem_cons_self a b h) fun a' b' h' =>
        ih (fun c hc => hf c (List.mem_cons_of_mem _ hc)) h'

end Corresponds

end Rostering
