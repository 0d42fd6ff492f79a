import Rostering.Proofs.Model.Family

/-!
# Keys that are the same

A family looks its variables up by comparing keys, and two keys can be the same in different
spellings: moments are compared by the instant that they stand for. Among texts and days this
comparison is an equivalence, so that a variable belongs to a class of keys.

## The architecture

* **`Value.IsMember.same_trans`** — what is the same as a third is the same.
* **`Family.number_congr`** — keys that are the same find one variable.
* **`Family.same_of_number_eq`** — keys that find one variable are the same, if no variable of the
  family belongs to two keys.
-/

namespace Rostering

/-! ## Members -/

/-- Days that are no distance from a third are no distance from each other. Dates and moments have
no distance, so all three are of one kind. -/
theorem Day.distance?_trans {a b c : Day} (hab : a.distance? b = some 0)
    (hbc : b.distance? c = some 0) : a.distance? c = some 0 := by
  cases a with
  | date a =>
      cases b with
      | date b =>
          cases c with
          | date c =>
              simp only [Day.distance?, Option.some.injEq, Int.ofNat_eq_natCast] at *
              omega
          | moment c => cases hbc
      | moment b => cases hab
  -- moments are all local or all not, and then their instants are compared
  | moment a =>
      cases b with
      | date b => cases hab
      | moment b =>
          cases c with
          | date c => cases hbc
          | moment c =>
              simp only [Day.distance?, Option.ite_none_right_eq_some, Option.some.injEq] at *
              exact ⟨hab.1.trans hbc.1, by omega⟩

namespace Value

/-- Days are the same when no time lies between them. -/
theorem same_day_iff (a b : Day) :
    (Value.day a).same (.day b) = true ↔ a.distance? b = some 0 := by
  rw [Value.same, Bool.or_eq_true, beq_iff_eq, beq_iff_eq]
  constructor
  · rintro (rfl | hzero)
    · cases a with
      | date d => simp [Day.distance?]
      | moment m => simp [Day.distance?]
    · exact hzero
  · exact Or.inr

namespace IsMember

/-- Only a text or a day is the same as one. -/
theorem of_same {u v : Value} (hu : u.IsMember) (h : u.same v = true) : v.IsMember := by
  cases u with
  | str s =>
      cases v with
      | str t => trivial
      | _ => simp [Value.same] at h
  | day d =>
      cases v with
      | day e => trivial
      | _ => simp [Value.same] at h
  | _ => exact absurd hu id

/-- Sameness of members is transitive. -/
theorem same_trans {u v w : Value} (hu : u.IsMember) (huv : u.same v = true)
    (hvw : v.same w = true) : u.same w = true := by
  have hv := hu.of_same huv
  have hw := hv.of_same hvw
  cases u with
  | str s =>
      cases v with
      | str t =>
          rw [Value.same, beq_iff_eq] at huv
          rw [huv]
          exact hvw
      | _ => simp [Value.same] at huv
  | day a =>
      cases v with
      | day b =>
          cases w with
          | day c =>
              rw [same_day_iff] at huv hvw ⊢
              exact Day.distance?_trans huv hvw
          | _ => simp [Value.same] at hvw
      | _ => simp [Value.same] at huv
  | _ => exact absurd hu id

end IsMember

/-! ## Keys -/

/-- A key that is the same as a key of members consists of members. -/
theorem members_of_sameItems {key : Key} (hkey : ∀ v ∈ key, v.IsMember) :
    ∀ {other : Key}, sameItems key other = true → ∀ v ∈ other, v.IsMember := by
  induction key with
  | nil =>
      intro other h
      cases other with
      | nil => simp
      | cons u other => simp [sameItems] at h
  | cons v key ih =>
      intro other h
      cases other with
      | nil => simp [sameItems] at h
      | cons u other =>
          rw [sameItems, Bool.and_eq_true] at h
          have hfirst := (hkey v List.mem_cons_self).of_same h.1
          have hrest := ih (fun w hw => hkey w (List.mem_cons_of_mem v hw)) h.2
          exact List.forall_mem_cons.mpr ⟨hfirst, hrest⟩

/-- Sameness of keys of members is transitive. Induction along all three keys. -/
theorem sameItems_trans {key : Key} (hkey : ∀ v ∈ key, v.IsMember) :
    ∀ {second third : Key}, sameItems key second = true → sameItems second third = true →
      sameItems key third = true := by
  induction key with
  | nil =>
      intro second third h h'
      cases second with
      | nil => exact h'
      | cons u second => simp [sameItems] at h
  | cons v key ih =>
      intro second third h h'
      cases second with
      | nil => simp [sameItems] at h
      | cons u second =>
          cases third with
          | nil => simp [sameItems] at h'
          | cons w third =>
              rw [sameItems, Bool.and_eq_true] at h h' ⊢
              exact ⟨(hkey v List.mem_cons_self).same_trans h.1 h'.1,
                ih (fun w hw => hkey w (List.mem_cons_of_mem v hw)) h.2 h'.2⟩

end Value

/-! ## Variables of keys -/

namespace Family

/-- Keys that are the same find one variable. -/
theorem number_congr (f : Family) {key other : Key} (hkey : ∀ v ∈ key, v.IsMember)
    (h : Value.sameItems key other = true) : f.number key = f.number other := by
  have hother := Value.members_of_sameItems hkey h
  have hback : Value.sameItems other key = true := Value.sameItems_symm hother h
  unfold number find?
  congr 3
  funext e
  rw [Bool.eq_iff_iff]
  exact ⟨Value.sameItems_trans hother hback, Value.sameItems_trans hkey h⟩

/-- Keys that find one variable are the same, if no variable belongs to two keys. -/
theorem same_of_number_eq {f : Family} (hf : f.numbers.Nodup) {key other : Key}
    (hkey : ∀ v ∈ key, v.IsMember) (hfound : (f.find? key).isSome = true)
    (hfound' : (f.find? other).isSome = true)
    (h : f.number key = f.number other) : Value.sameItems key other = true := by
  obtain ⟨n, hn⟩ := Option.isSome_iff_exists.mp hfound
  obtain ⟨n', hn'⟩ := Option.isSome_iff_exists.mp hfound'
  unfold number at h
  rw [hn, hn'] at h
  obtain ⟨e, he, rfl⟩ := Option.map_eq_some_iff.mp hn
  obtain ⟨e', he', rfl⟩ := Option.map_eq_some_iff.mp hn'
  -- both look-ups ended at one entry, since its number occurs only once
  have heq : e = e' :=
    List.inj_on_of_nodup_map hf (List.mem_of_find?_eq_some he) (List.mem_of_find?_eq_some he') h
  have hsame := List.find?_some he
  have hsame' := List.find?_some he'
  rw [← heq] at hsame'
  have hentry := Value.members_of_sameItems hkey hsame
  exact Value.sameItems_trans hkey hsame (Value.sameItems_symm hentry hsame')

end Family

end Rostering
