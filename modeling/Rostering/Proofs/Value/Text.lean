import Rostering.Failure
import Rostering.Proofs.Except

/-!
# What the text of a value looks like

A value that is no text shows with a character in it that is no small letter: a digit, a capital, a
bracket, a quote, a sign. The only exceptions are the two words for floats. So the text of a value is
never empty unless the value is the empty text, and a keyword is the text of nothing but itself.

## The architecture

* **`HasMark`** — some character is no small letter; a text has a mark if a part of it has one.
* **`Value.quoted_cases`** — a value spelled out has a mark or is one of the two words, one case for
  each kind of value.
* **`Value.shown_ne_empty`** — what shows as the empty text is the empty text.
* **`Value.eq_str_of_shown`** — what shows as a keyword is the keyword.
* **`Value.text_eq_ok`**, **`Value.checkTexts_eq_ok`** — when values have texts at all.
-/

namespace Rostering

/-! ## Marks -/

/-- Some character of the text is no small letter. -/
def HasMark (s : String) : Prop := ∃ c ∈ s.toList, c.isLower = false

theorem HasMark.append_left {s : String} (hs : HasMark s) (t : String) : HasMark (s ++ t) := by
  obtain ⟨c, hc, hmark⟩ := hs
  exact ⟨c, by rw [String.toList_append]; exact List.mem_append_left _ hc, hmark⟩

theorem HasMark.append_right {t : String} (ht : HasMark t) (s : String) : HasMark (s ++ t) := by
  obtain ⟨c, hc, hmark⟩ := ht
  exact ⟨c, by rw [String.toList_append]; exact List.mem_append_right _ hc, hmark⟩

theorem HasMark.ne_empty {s : String} (hs : HasMark s) : s ≠ "" := by
  rintro rfl
  obtain ⟨c, hc, -⟩ := hs
  simp at hc

theorem hasMark_singleton {c : Char} (hc : c.isLower = false) : HasMark (String.singleton c) :=
  ⟨c, by simp, hc⟩

/-! ## Numbers and dates -/

theorem isLower_of_isDigit {c : Char} (hc : c.isDigit = true) : c.isLower = false := by
  have hnine : c.val ≤ 57 := by
    simp only [Char.isDigit, Bool.and_eq_true, decide_eq_true_eq] at hc
    exact hc.2
  have hsmall : ¬ 97 ≤ c.val := fun h => absurd (UInt32.le_trans h hnine) (by decide)
  simp only [Char.isLower, Bool.and_eq_false_iff, decide_eq_false_iff_not]
  exact Or.inl hsmall

theorem hasMark_repr (n : Nat) : HasMark n.repr := by
  have hdigits : n.repr.toList = Nat.toDigits 10 n := Nat.toList_repr
  obtain ⟨c, hc⟩ := List.exists_mem_of_ne_nil _ (Nat.toDigits_ne_nil (n := n) (b := 10))
  have hdigit : c.isDigit = true := Nat.isDigit_of_mem_toDigits (by decide) (by decide) hc
  exact ⟨c, hdigits ▸ hc, isLower_of_isDigit hdigit⟩

/-- Year and month are joined by a dash. -/
theorem Date.hasMark_iso (d : Date) : HasMark d.iso := by
  unfold Date.iso
  exact HasMark.append_left (HasMark.append_left (HasMark.append_left
    (HasMark.append_right (by simp [HasMark]) _) _) _) _

theorem Date.iso_ne_empty (d : Date) : d.iso ≠ "" := d.hasMark_iso.ne_empty

theorem Moment.hasMark_text (m : Moment) (between : String) : HasMark (m.text between) := by
  unfold Moment.text
  simp only [String.append_assoc]
  exact HasMark.append_left m.date.hasMark_iso _

/-- A float is written with a point, with the sign of an exponent, or as a word. -/
theorem plainFloat_text_cases (x : Float) :
    plainFloat.text x = "nan" ∨ plainFloat.text x = "inf" ∨ HasMark (plainFloat.text x) := by
  -- a point, the sign of an exponent, and then the two words and the sign of a negative number
  have hpositional : ∀ digits place, HasMark (FloatFormat.positional digits place) := by
    intro digits place
    unfold FloatFormat.positional
    split
    · exact HasMark.append_left (by simp [HasMark]) _
    · exact HasMark.append_left (HasMark.append_right (by simp [HasMark]) _) _
  have hscientific : ∀ digits exponent, HasMark (plainFloat.scientific digits exponent) := by
    intro digits exponent
    unfold FloatFormat.scientific
    refine HasMark.append_left (HasMark.append_right ?_ _) _
    split <;> simp [HasMark]
  have hbody : ∀ (near : Prop) [Decidable near] digits place exponent,
      HasMark (if near then FloatFormat.positional digits place
        else plainFloat.scientific digits exponent) := by
    intro near _ digits place exponent
    split
    · exact hpositional _ _
    · exact hscientific _ _
  unfold FloatFormat.text
  split
  · exact Or.inl rfl
  · exact Or.inr (Or.inl rfl)
  · exact Or.inr (Or.inr (by simp [HasMark, plainFloat]))
  · exact Or.inr (Or.inr (by split <;> simp [HasMark]))
  · refine Or.inr (Or.inr ?_)
    simp only
    split
    · exact HasMark.append_left (by simp [HasMark]) _
    · exact hbody _ _ _ _

/-! ## Values -/

theorem quoteMark_isLower (b : Bool) : (if b then '"' else '\x27').isLower = false := by
  cases b <;> rfl

/-- A value spelled out has a mark: whatever is not a word of its own stands between marks. The two
words are those of floats that are not finite, and they have no mark. -/
theorem Value.quoted_cases (v : Value) :
    v.quoted = "nan" ∨ v.quoted = "inf" ∨ HasMark v.quoted := by
  cases v with
  | float x =>
      unfold Value.quoted
      exact plainFloat_text_cases x
  -- only floats are written as words of small letters
  | null => exact Or.inr (Or.inr (by simp [HasMark, Value.quoted]))
  | bool b => exact Or.inr (Or.inr (by cases b <;> simp [HasMark, Value.quoted]))
  | int n =>
      refine Or.inr (Or.inr ?_)
      unfold Value.quoted
      cases n with
      | ofNat n => exact hasMark_repr n
      | negSucc n => exact HasMark.append_left (by simp [HasMark]) _
  | str s =>
      refine Or.inr (Or.inr ?_)
      unfold Value.quoted quotedText
      exact HasMark.append_right (hasMark_singleton (quoteMark_isLower _)) _
  | bytes bs =>
      refine Or.inr (Or.inr ?_)
      unfold Value.quoted quotedBytes
      exact HasMark.append_right (hasMark_singleton (quoteMark_isLower _)) _
  | day d =>
      refine Or.inr (Or.inr ?_)
      unfold Value.quoted quotedDay callText
      cases d <;> exact HasMark.append_right (by simp [HasMark]) _
  | noMoment => exact Or.inr (Or.inr (by simp [HasMark, Value.quoted]))
  | list items =>
      refine Or.inr (Or.inr ?_)
      unfold Value.quoted
      exact HasMark.append_right (by simp [HasMark]) _
  | tuple items =>
      refine Or.inr (Or.inr ?_)
      rcases items with _ | ⟨x, _ | ⟨y, rest⟩⟩ <;> unfold Value.quoted
      all_goals exact HasMark.append_right (by simp [HasMark]) _
  | set items =>
      refine Or.inr (Or.inr ?_)
      cases items <;> unfold Value.quoted
      · simp [HasMark]
      · exact HasMark.append_right (by simp [HasMark]) _
  | map entries =>
      refine Or.inr (Or.inr ?_)
      unfold Value.quoted
      exact HasMark.append_right (by simp [HasMark]) _
  | table columns rows =>
      refine Or.inr (Or.inr ?_)
      unfold Value.quoted
      exact HasMark.append_left (HasMark.append_right (by simp [HasMark]) _) _
  | again isMap =>
      refine Or.inr (Or.inr ?_)
      unfold Value.quoted
      cases isMap <;> simp [HasMark]
  | reader => exact Or.inr (Or.inr (by simp [HasMark, Value.quoted]))

/-- A value that is no text shows with a mark, or is one of two floats. -/
theorem Value.shown_cases {v : Value} (hv : ∀ s, v ≠ .str s) :
    v.shown = "nan" ∨ v.shown = "inf" ∨ HasMark v.shown := by
  unfold Value.shown
  split
  · next s => exact absurd rfl (hv s)
  · exact Or.inr (Or.inr (Date.hasMark_iso _))
  · exact Or.inr (Or.inr (Moment.hasMark_text _ _))
  · exact v.quoted_cases

/-- A value that counts as given is never shown as the empty text. -/
theorem Value.shown_ne_empty {v : Value} (hv : v.isAbsent = false) : v.shown ≠ "" := by
  by_cases htext : ∃ s, v = .str s
  · obtain ⟨s, rfl⟩ := htext
    rintro rfl
    exact absurd hv (by decide)
  · have hcases := Value.shown_cases fun s hs => htext ⟨s, hs⟩
    rcases hcases with hnan | hinf | hmark
    · exact hnan ▸ by decide
    · exact hinf ▸ by decide
    · exact hmark.ne_empty

/-! ## Keywords -/

/-- A word of small letters that is not the word for a float. -/
structure IsKeyword (w : String) : Prop where
  small : ∀ c ∈ w.toList, c.isLower = true
  ne_nan : w ≠ "nan"
  ne_inf : w ≠ "inf"

theorem IsKeyword.not_hasMark {w : String} (hw : IsKeyword w) : ¬ HasMark w := by
  rintro ⟨c, hc, hmark⟩
  rw [hw.small c hc] at hmark
  cases hmark

/-- A value whose text is a keyword is that keyword. -/
theorem Value.eq_str_of_shown {v : Value} {w : String} (hw : IsKeyword w) (hv : v.shown = w) :
    v = .str w := by
  by_cases htext : ∃ s, v = .str s
  · obtain ⟨s, rfl⟩ := htext
    exact congrArg Value.str hv
  · have hcases := Value.shown_cases fun s hs => htext ⟨s, hs⟩
    rw [hv] at hcases
    rcases hcases with hnan | hinf | hmark
    · exact absurd hnan hw.ne_nan
    · exact absurd hinf hw.ne_inf
    · exact absurd hmark hw.not_hasMark

/-! ## Values that have a text -/

namespace Value

@[simp] theorem hasText_str (s : String) : (str s).hasText = true := by simp [hasText]

@[simp] theorem hasText_int (n : Int) : (int n).hasText = decide (n.natAbs < integerLimit) := by
  simp [hasText]

@[simp] theorem hasText_list (l : List Value) : (list l).hasText = haveText l := by simp [hasText]

@[simp] theorem hasText_map (es : Entries) : (map es).hasText = entriesHaveText es := by
  simp [hasText]

@[simp] theorem haveText_nil : haveText [] = true := by simp [haveText]

@[simp] theorem haveText_cons (v : Value) (l : List Value) :
    haveText (v :: l) = (v.hasText && haveText l) := by simp [haveText]

@[simp] theorem entriesHaveText_nil : entriesHaveText [] = true := by simp [entriesHaveText]

@[simp] theorem entriesHaveText_cons (e : Value × Value) (es : Entries) :
    entriesHaveText (e :: es) = (e.1.hasText && e.2.hasText && entriesHaveText es) := by
  simp [entriesHaveText]

/-- Induction on the values. -/
theorem haveText_iff {l : List Value} : haveText l = true ↔ ∀ v ∈ l, v.hasText = true := by
  induction l with
  | nil => simp
  | cons v l ih => rw [haveText_cons, Bool.and_eq_true, ih, List.forall_mem_cons]

/-- Induction on the entries. -/
theorem entriesHaveText_iff {es : Entries} :
    entriesHaveText es = true ↔ ∀ e ∈ es, e.1.hasText = true ∧ e.2.hasText = true := by
  induction es with
  | nil => simp
  | cons e es ih =>
      rw [entriesHaveText_cons, Bool.and_eq_true, Bool.and_eq_true, ih, List.forall_mem_cons]

theorem text_eq_ok {v : Value} {s : String} : v.text = .ok s ↔ v.hasText = true ∧ v.shown = s := by
  unfold text
  split
  · next h => simp [pure_eq_ok, h]
  · next h => simp [throw_ne_ok, h]

theorem text_of_hasText {v : Value} (hv : v.hasText = true) : v.text = .ok v.shown :=
  text_eq_ok.mpr ⟨hv, rfl⟩

theorem checkTexts_eq_ok {l : List Value} {u : Unit} :
    checkTexts l = .ok u ↔ ∀ v ∈ l, v.hasText = true := by
  unfold checkTexts
  rw [← haveText_iff]
  split
  · next h => simp [pure_eq_ok, h]
  · next h => simp [throw_ne_ok, h]

end Value

end Rostering
