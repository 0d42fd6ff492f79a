import Mathlib
import Rostering.Model.Basic

/-!
# Sums of variables, and families that find them

What the constraints of a model say depends on two things: which sum a list of terms stands for,
and which variable a family finds under a key. This module has both.

## The architecture

* **`Terms.eval_ofVariables`**, **`Terms.eval_flatMap`** — sums of variables are sums over lists,
  with repeated entries counted as often as they are written.
* **`sum_eq_length_filter`** — a sum of zeros and ones counts the ones.
* **`Family.isSome_find?_ofPairs`** — every key for which a variable was created is one that the
  family finds, if the key is made of texts and days.
* **`Family.numbers_ofPairs`** — the variables that a family finds are different ones, and all of
  them were created for it.
-/

namespace Rostering

/-! ## Sums -/

namespace Terms

theorem eval_ofVariables (l : List Nat) (v : Valuation) :
    eval (ofVariables l) v = (l.map v).sum := by
  induction l with
  | nil => rfl
  | cons i l ih =>
      -- every variable is added up with the coefficient one
      show 1 * v i + eval (ofVariables l) v = _
      rw [ih, List.map_cons, List.sum_cons, Int.one_mul]

theorem eval_flatMap {α : Type} (f : α → Terms) (l : List α) (v : Valuation) :
    eval (l.flatMap f) v = (l.map fun a => eval (f a) v).sum := by
  induction l with
  | nil => rfl
  | cons a l ih => rw [List.flatMap_cons, eval_append, ih, List.map_cons, List.sum_cons]

end Terms

/-- A sum of zeros and ones counts the ones. Induction on what is added up. -/
theorem sum_eq_length_filter {α : Type} {l : List α} {x : α → Int}
    (hx : ∀ a ∈ l, x a = 0 ∨ x a = 1) : (l.map x).sum = (l.filter fun a => x a = 1).length := by
  induction l with
  | nil => rfl
  | cons a l ih =>
      have hrest := ih fun b hb => hx b (List.mem_cons_of_mem a hb)
      rw [List.map_cons, List.sum_cons, hrest]
      cases hx a List.mem_cons_self with
      | inl hzero => simp [hzero]
      | inr hone =>
          simp [hone]
          omega

instance (c : Constraint) (v : Valuation) : Decidable (c.Holds v) :=
  inferInstanceAs
    (Decidable ((∀ l ∈ c.lower, l ≤ c.terms.eval v) ∧ ∀ u ∈ c.upper, c.terms.eval v ≤ u))

/-! ## Keys -/

/-- Texts and days, the members of indexes that can be read from a configuration. -/
def Value.IsMember : Value → Prop
  | .str _ | .day _ => True
  | _ => False

/-- A member is the same as itself. -/
theorem Value.IsMember.same_self {v : Value} (hv : v.IsMember) : v.same v = true := by
  cases v with
  | str s => simp [Value.same]
  | day d => simp [Value.same]
  | _ => exact absurd hv id

/-- Two days stand for one instant whichever is compared with which. -/
theorem Day.distance?_eq_zero_comm (a b : Day) :
    (a.distance? b == some 0) = (b.distance? a == some 0) := by
  cases a with
  | date a =>
      cases b with
      | date b =>
          rw [Bool.eq_iff_iff]
          simp only [Day.distance?, beq_iff_eq, Option.some.injEq, Int.ofNat_eq_natCast]
          omega
      | moment b => rfl
  | moment a =>
      cases b with
      | date b => rfl
      | moment b =>
          -- two moments can be compared only if both have an offset or neither has
          by_cases hzone : a.offset.isSome = b.offset.isSome
          · rw [Bool.eq_iff_iff]
            simp only [Day.distance?, hzone, if_true, beq_iff_eq, Option.some.injEq]
            omega
          · have hzone' : ¬ b.offset.isSome = a.offset.isSome := fun h => hzone h.symm
            simp only [Day.distance?, hzone, hzone', if_false]

/-- Whatever is the same as a member is found by the member. -/
theorem Value.IsMember.same_symm {u v : Value} (hv : v.IsMember) (h : u.same v = true) :
    v.same u = true := by
  -- only texts and days are members, and each is the same as its own kind only
  cases v with
  | str s =>
      cases u with
      | str t =>
          simp only [Value.same, beq_iff_eq] at h ⊢
          exact h.symm
      | _ => simp [Value.same, Value.sameInt] at h
  | day d =>
      cases u with
      | day e =>
          simp only [Value.same, Bool.or_eq_true, beq_iff_eq] at h ⊢
          cases h with
          | inl heq => exact Or.inl heq.symm
          | inr hzero =>
              have hcomm := Day.distance?_eq_zero_comm d e
              rw [hzero] at hcomm
              exact Or.inr (beq_iff_eq.mp hcomm)
      | _ => simp [Value.same, Value.sameInt] at h
  | _ => exact absurd hv id

theorem Value.sameItems_self {key : Key} (hkey : ∀ v ∈ key, v.IsMember) :
    Value.sameItems key key = true := by
  induction key with
  | nil => rw [Value.sameItems]
  | cons v key ih =>
      have hv := (hkey v List.mem_cons_self).same_self
      have hrest := ih fun w hw => hkey w (List.mem_cons_of_mem v hw)
      rw [Value.sameItems, hv, hrest]
      rfl

/-- Sameness of keys of members goes both ways. Induction along both keys. -/
theorem Value.sameItems_symm {key : Key} (hkey : ∀ v ∈ key, v.IsMember) :
    ∀ {other : Key}, Value.sameItems other key = true → Value.sameItems key other = true := by
  induction key with
  | nil =>
      intro other h
      cases other with
      | nil => exact h
      | cons u other => simp [Value.sameItems] at h
  | cons v key ih =>
      intro other h
      cases other with
      | nil => simp [Value.sameItems] at h
      | cons u other =>
          rw [Value.sameItems, Bool.and_eq_true] at h
          have hfirst := (hkey v List.mem_cons_self).same_symm h.1
          have hrest := ih (fun w hw => hkey w (List.mem_cons_of_mem v hw)) h.2
          rw [Value.sameItems, hfirst, hrest]
          rfl

/-! ## Families -/

namespace Family

/-- A key is found if the family has one that is the same. -/
theorem isSome_find?_iff (f : Family) (key : Key) :
    (f.find? key).isSome = true ↔ ∃ k ∈ f.keys, Value.sameItems key k = true := by
  unfold find? keys
  rw [Option.isSome_map, List.find?_isSome]
  constructor
  · rintro ⟨e, he, hsame⟩
    exact ⟨e.1, List.mem_map_of_mem he, hsame⟩
  · rintro ⟨k, hk, hsame⟩
    obtain ⟨e, he, rfl⟩ := List.mem_map.mp hk
    exact ⟨e, he, hsame⟩

theorem number_mem {f : Family} {key : Key} (hkey : (f.find? key).isSome = true) :
    f.number key ∈ f.numbers := by
  obtain ⟨n, hn⟩ := Option.isSome_iff_exists.mp hkey
  obtain ⟨e, he, rfl⟩ := Option.map_eq_some_iff.mp hn
  rw [number, hn]
  exact List.mem_map_of_mem (List.mem_of_find?_eq_some he)

/-- Keys that were there stay, and a key is there after it was put, at least in another spelling. It
comes last if none that was there is the same. -/
theorem keys_put (key : Key) (number : Nat) (f : Family) :
    (put key number f).keys = f.keys ∧ (∃ k ∈ f.keys, Value.sameItems k key = true)
      ∨ (put key number f).keys = f.keys ++ [key]
        ∧ ∀ k ∈ f.keys, Value.sameItems k key = false := by
  induction f with
  | nil => exact Or.inr ⟨rfl, fun k hk => absurd hk List.not_mem_nil⟩
  | cons e f ih =>
      obtain ⟨k, n⟩ := e
      -- the first key is compared first, so only if it differs does the rest matter
      by_cases hsame : Value.sameItems k key = true
      · refine Or.inl ⟨?_, k, List.mem_cons_self, hsame⟩
        rw [put, if_pos hsame]
        rfl
      · have hput : (put key number ((k, n) :: f)).keys = k :: (put key number f).keys := by
          rw [put, if_neg hsame]
          rfl
        -- in the rest the key was there or comes last; in front of it this changes nothing
        cases ih with
        | inl hold =>
            obtain ⟨hkeys, k', hk', hsame'⟩ := hold
            refine Or.inl ⟨?_, k', List.mem_cons_of_mem k hk', hsame'⟩
            rw [hput, hkeys]
            rfl
        | inr hnew =>
            refine Or.inr ⟨?_, List.forall_mem_cons.mpr ⟨Bool.eq_false_iff.mpr hsame, hnew.2⟩⟩
            rw [hput, hnew.1]
            rfl

theorem forall_keys_put {P : Key → Prop} {key : Key} (hkey : P key) (number : Nat) {f : Family}
    (hf : ∀ k ∈ f.keys, P k) : ∀ k ∈ (put key number f).keys, P k := by
  rcases keys_put key number f with ⟨hkeys, -⟩ | ⟨hkeys, -⟩
  · rw [hkeys]
    exact hf
  · rw [hkeys]
    exact List.forall_mem_append.mpr ⟨hf, List.forall_mem_singleton.mpr hkey⟩

/-- All keys of a family were put. Induction on the keys that are still to come. -/
theorem forall_keys_ofPairs {P : Key → Prop} {l : List (Key × Nat)} (hl : ∀ e ∈ l, P e.1) :
    ∀ k ∈ (ofPairs l).keys, P k := by
  have hfold : ∀ (l : List (Key × Nat)) (f : Family), (∀ e ∈ l, P e.1) → (∀ k ∈ f.keys, P k) →
      ∀ k ∈ (l.foldl (fun f e => put e.1 e.2 f) f).keys, P k := by
    intro l
    induction l with
    | nil => exact fun f _ hf => hf
    | cons e l ih =>
        intro f hl hf
        obtain ⟨hfirst, hrest⟩ := List.forall_mem_cons.mp hl
        exact ih (put e.1 e.2 f) hrest (forall_keys_put hfirst e.2 hf)
  exact hfold l [] hl fun k hk => absurd hk List.not_mem_nil

/-- No two keys of a family are the same. Induction on the keys that are still to come. A key that
comes again overwrites the variable that was there. -/
theorem pairwise_keys_ofPairs (l : List (Key × Nat)) :
    (ofPairs l).keys.Pairwise fun k k' => Value.sameItems k k' = false := by
  -- one step: a key that is put is new or takes the place of one that is the same
  have hput : ∀ (e : Key × Nat) (f : Family),
      f.keys.Pairwise (fun k k' => Value.sameItems k k' = false) →
        (put e.1 e.2 f).keys.Pairwise fun k k' => Value.sameItems k k' = false := by
    intro e f hf
    rcases keys_put e.1 e.2 f with ⟨hkeys, -⟩ | ⟨hkeys, hfresh⟩
    · rw [hkeys]
      exact hf
    · rw [hkeys, List.pairwise_append]
      refine ⟨hf, List.pairwise_singleton _ _, fun k hk k' hk' => ?_⟩
      rw [List.mem_singleton.mp hk']
      exact hfresh k hk
  have hfold : ∀ (l : List (Key × Nat)) (f : Family),
      f.keys.Pairwise (fun k k' => Value.sameItems k k' = false) →
        (keys (l.foldl (fun f e => put e.1 e.2 f) f)).Pairwise
          fun k k' => Value.sameItems k k' = false := by
    intro l
    induction l with
    | nil => exact fun f hf => hf
    | cons e l ih => exact fun f hf => ih (put e.1 e.2 f) (hput e f hf)
  exact hfold l [] List.Pairwise.nil

/-- Every key that was put is found, if it is made of texts and days. Induction on the keys that are
still to come. -/
theorem isSome_find?_ofPairs {l : List (Key × Nat)} {key : Key} (hkey : ∀ v ∈ key, v.IsMember)
    (hmem : key ∈ l.map Prod.fst) : ((ofPairs l).find? key).isSome = true := by
  have hfold : ∀ (l : List (Key × Nat)) (f : Family),
      key ∈ l.map Prod.fst ∨ (f.find? key).isSome = true →
        ((l.foldl (fun f e => put e.1 e.2 f) f).find? key).isSome = true := by
    intro l
    induction l with
    | nil =>
        intro f h
        cases h with
        | inl hnone => exact absurd hnone List.not_mem_nil
        | inr hfound => exact hfound
    | cons e l ih =>
        intro f h
        refine ih (put e.1 e.2 f) ?_
        rw [List.map_cons, List.mem_cons, or_assoc] at h
        rcases h with rfl | hlater | hfound
        · -- put right now: it stands there itself, or another spelling of it does
          refine Or.inr ((isSome_find?_iff _ _).mpr ?_)
          cases keys_put e.1 e.2 f with
          | inl hold =>
              obtain ⟨hkeys, k, hk, hsame⟩ := hold
              exact ⟨k, hkeys ▸ hk, Value.sameItems_symm hkey hsame⟩
          | inr hnew =>
              refine ⟨e.1, ?_, Value.sameItems_self hkey⟩
              rw [hnew.1]
              exact List.mem_append_right _ List.mem_cons_self
        · exact Or.inl hlater
        · -- put before: keys stay when others are put
          obtain ⟨k, hk, hsame⟩ := (isSome_find?_iff f key).mp hfound
          refine Or.inr ((isSome_find?_iff _ _).mpr ⟨k, ?_, hsame⟩)
          cases keys_put e.1 e.2 f with
          | inl hold => exact hold.1 ▸ hk
          | inr hnew =>
              rw [hnew.1]
              exact List.mem_append_left _ hk
  exact hfold l [] (Or.inl hmem)

/-- A variable after a key was put is the new one or an old one. -/
theorem mem_numbers_put {key : Key} {number n : Nat} {f : Family}
    (hn : n ∈ (put key number f).numbers) : n = number ∨ n ∈ f.numbers := by
  induction f with
  | nil => exact Or.inl (List.mem_singleton.mp hn)
  | cons e f ih =>
      obtain ⟨k, m⟩ := e
      rw [put] at hn
      split at hn
      · cases List.mem_cons.mp hn with
        | inl heq => exact Or.inl heq
        | inr hrest => exact Or.inr (List.mem_cons_of_mem m hrest)
      · cases List.mem_cons.mp hn with
        | inl heq => exact Or.inr (heq ▸ List.mem_cons_self)
        | inr hrest =>
            cases ih hrest with
            | inl heq => exact Or.inl heq
            | inr hold => exact Or.inr (List.mem_cons_of_mem m hold)

/-- Putting a new variable keeps the variables different. -/
theorem nodup_numbers_put {key : Key} {number : Nat} {f : Family} (hf : f.numbers.Nodup)
    (hnew : number ∉ f.numbers) : (put key number f).numbers.Nodup := by
  induction f with
  | nil => exact List.nodup_singleton number
  | cons e f ih =>
      obtain ⟨k, m⟩ := e
      obtain ⟨hm, hrest⟩ := List.nodup_cons.mp hf
      have hnewrest : number ∉ numbers f := fun h => hnew (List.mem_cons_of_mem m h)
      rw [put]
      split
      -- the new variable takes the place of the old one
      · exact List.nodup_cons.mpr ⟨hnewrest, hrest⟩
      · refine List.nodup_cons.mpr ⟨?_, ih hrest hnewrest⟩
        intro hmem
        cases mem_numbers_put hmem with
        | inl heq =>
            rw [← heq] at hnew
            exact hnew List.mem_cons_self
        | inr hold => exact hm hold

/-- The variables of a family are different ones, and all were created for it. The keys are numbered
as they come, so no number is given twice. -/
theorem numbers_ofPairs {l : List (Key × Nat)} (hl : (l.map Prod.snd).Nodup) :
    (ofPairs l).numbers.Nodup ∧ (ofPairs l).numbers ⊆ l.map Prod.snd := by
  -- what is still to come is new to what is there already
  have hfold : ∀ (l : List (Key × Nat)) (f : Family),
      f.numbers.Nodup → (l.map Prod.snd).Nodup → (∀ n ∈ l.map Prod.snd, n ∉ f.numbers) →
        (numbers (l.foldl (fun f e => put e.1 e.2 f) f)).Nodup
          ∧ ∀ n ∈ numbers (l.foldl (fun f e => put e.1 e.2 f) f),
            n ∈ f.numbers ∨ n ∈ l.map Prod.snd := by
    intro l
    induction l with
    | nil => exact fun f hf _ _ => ⟨hf, fun n hn => Or.inl hn⟩
    | cons e l ih =>
        intro f hf hl hnew
        rw [List.map_cons] at hl
        obtain ⟨he, hl⟩ := List.nodup_cons.mp hl
        have hput : (numbers (put e.1 e.2 f)).Nodup :=
          nodup_numbers_put hf (hnew e.2 List.mem_cons_self)
        have hlater : ∀ n ∈ l.map Prod.snd, n ∉ (put e.1 e.2 f).numbers := by
          intro n hn hmem
          cases mem_numbers_put hmem with
          | inl heq => exact he (heq ▸ hn)
          | inr hold => exact hnew n (List.mem_cons_of_mem e.2 hn) hold
        obtain ⟨hnodup, hfrom⟩ := ih (put e.1 e.2 f) hput hl hlater
        refine ⟨hnodup, fun n hn => ?_⟩
        cases hfrom n hn with
        | inr hmem => exact Or.inr (List.mem_cons_of_mem e.2 hmem)
        | inl hmem =>
            cases mem_numbers_put hmem with
            | inl heq => exact Or.inr (heq ▸ List.mem_cons_self)
            | inr hold => exact Or.inl hold
  obtain ⟨hnodup, hfrom⟩ := hfold l [] List.nodup_nil hl fun n _ => List.not_mem_nil
  refine ⟨hnodup, fun n hn => ?_⟩
  cases hfrom n hn with
  | inl hnone => exact absurd hnone List.not_mem_nil
  | inr hmem => exact hmem

end Family

end Rostering
