import Mathlib
import Rostering.KeyPath
import Rostering.Service.Request

/-!
# Steps of key paths that look like numbers

A step that is to count the items of a list is a numeral: minus signs and then decimal digits. Not
every numeral is a number. This module says which ones are, and what number they are
(`IsNumeral.integerOfText?_eq`), for steps of ASCII.

## The architecture

* **`KeyPath.IsNumeral`** — the shape, and `KeyPath.looksNumeric_iff`, that it is what is tested for.
* **`KeyPath.integerOfText?_of_plain`** — reading a number takes off blanks, translates digits of
  other scripts and joins groups of digits; none of this does anything to a numeral.
-/

namespace Rostering.KeyPath

/-! ## Steps that look like numbers -/

/-- The step is so many minus signs in front of decimal digits. -/
structure IsNumeral (name : String) (signs : Nat) (digits : List Char) : Prop where
  spelled : name.toList = List.replicate signs '-' ++ digits
  nonempty : digits ≠ []
  decimal : ∀ c ∈ digits, c.isDigit = true

/-- Among the characters of ASCII the digits are the usual ten. -/
theorem isDigit_of_lt {c : Char} (hc : c.toNat < 0x80) : Text.isDigit c = c.isDigit := by
  have hall : ∀ n < 0x80, Text.isDigit (Char.ofNat n) = (Char.ofNat n).isDigit := by decide +kernel
  have h := hall c.toNat hc
  rwa [Char.ofNat_toNat] at h

/-- A digit of the usual ten is read as it stands, to any base from ten on. -/
theorem plain_of_isDigit {c : Char} (hc : c.isDigit = true) :
    plainDigit c = c ∧ Text.isBlank c = false ∧ Text.isDigit c = true ∧ c ∉ ['-', '+', '_']
      ∧ baseDigit? 10 c = some (c.toNat - '0'.toNat) := by
  -- there are few characters below the bound, so all of them are tried
  have hall : ∀ n < 0x80, (Char.ofNat n).isDigit = true →
      plainDigit (Char.ofNat n) = Char.ofNat n ∧ Text.isBlank (Char.ofNat n) = false
        ∧ Text.isDigit (Char.ofNat n) = true ∧ Char.ofNat n ∉ ['-', '+', '_']
        ∧ baseDigit? 10 (Char.ofNat n) = some ((Char.ofNat n).toNat - '0'.toNat) := by
    decide +kernel
  have hlt : c.toNat < 0x80 := by
    simp only [Char.isDigit, Bool.and_eq_true, decide_eq_true_eq] at hc
    have hnine : c.toNat ≤ '9'.toNat := hc.2
    exact Nat.lt_of_le_of_lt hnine (by decide)
  have h := hall c.toNat hlt
  rw [Char.ofNat_toNat] at h
  exact h hc

namespace IsNumeral

variable {name : String} {signs : Nat} {digits : List Char}

/-- The digits are what is left without the minus signs in front. -/
theorem digits_eq (h : IsNumeral name signs digits) :
    name.toList.dropWhile (· == '-') = digits := by
  have hsigns : ∀ c ∈ List.replicate signs '-', (c == '-') = true := by
    intro c hc
    rw [List.eq_of_mem_replicate hc]
    rfl
  rw [h.spelled, List.dropWhile_append_of_pos hsigns]
  cases digits with
  | nil => rfl
  | cons d ds =>
      have hd : (d == '-') = false := by
        have := (plain_of_isDigit (h.decimal d List.mem_cons_self)).2.2.2.1
        simp_all
      rw [List.dropWhile_cons, hd]
      rfl

/-- A step is a numeral in one way at most. -/
theorem unique {signs' : Nat} {digits' : List Char} (h : IsNumeral name signs digits)
    (h' : IsNumeral name signs' digits') : signs = signs' ∧ digits = digits' := by
  obtain rfl : digits = digits' := h.digits_eq.symm.trans h'.digits_eq
  have hlength := congrArg List.length (h.spelled.symm.trans h'.spelled)
  simp only [List.length_append, List.length_replicate] at hlength
  exact ⟨by omega, rfl⟩

end IsNumeral

/-- A step of ASCII looks like a number exactly if it is a numeral. Minus signs are stripped in any
number before the digits are looked at, so a numeral may have several of them. -/
theorem looksNumeric_iff {name : String} (hname : Access.isAscii name = true) :
    looksNumeric name = true ↔ ∃ signs digits, IsNumeral name signs digits := by
  have hascii : ∀ c ∈ name.toList, c.toNat < 0x80 := by
    simpa [Access.isAscii] using hname
  -- below the bound, digits of all scripts are the usual ten
  have hdigits : (name.toList.dropWhile (· == '-')).all Text.isDigit = true
      ↔ ∀ c ∈ name.toList.dropWhile (· == '-'), c.isDigit = true := by
    rw [List.all_eq_true]
    refine forall₂_congr fun c hc => ?_
    rw [isDigit_of_lt (hascii c ((List.dropWhile_sublist _).subset hc))]
  unfold looksNumeric
  simp only [Bool.and_eq_true, hdigits, Bool.not_eq_true', List.isEmpty_eq_false_iff]
  constructor
  · rintro ⟨hsome, hall⟩
    refine ⟨(name.toList.takeWhile (· == '-')).length, _, ?_, hsome, hall⟩
    -- what was taken off in front are minus signs only
    have hsigns : name.toList.takeWhile (· == '-')
        = List.replicate (name.toList.takeWhile (· == '-')).length '-' :=
      List.eq_replicate_of_mem fun c hc => by simpa using List.mem_takeWhile_imp hc
    rw [← hsigns, List.takeWhile_append_dropWhile]
  · rintro ⟨signs, digits, h⟩
    rw [h.digits_eq]
    exact ⟨h.nonempty, h.decimal⟩

/-! ## The number of a numeral -/

theorem stripped_of_not_isBlank {s : String} (hs : ∀ c ∈ s.toList, Text.isBlank c = false) :
    Text.stripped s = s := by
  have hdrop : ∀ l : List Char, (∀ c ∈ l, Text.isBlank c = false) → l.dropWhile Text.isBlank = l := by
    intro l hl
    cases l with
    | nil => rfl
    | cons c l => rw [List.dropWhile_cons, hl c List.mem_cons_self]; rfl
  unfold Text.stripped
  rw [hdrop _ hs, hdrop _ fun c hc => hs c (List.mem_reverse.mp hc), List.reverse_reverse,
    String.ofList_toList]

/-- Without underscores there is nothing to join. Induction on the characters. -/
theorem joinGroups_of_not_mem (digit : Char → Bool) {cs : List Char} (hcs : '_' ∉ cs) :
    ∀ afterDigit, joinGroups digit afterDigit cs = some cs := by
  induction cs with
  | nil => exact fun _ => rfl
  | cons c cs ih =>
      intro afterDigit
      have hc : c ≠ '_' := fun heq => hcs (heq ▸ List.mem_cons_self)
      rw [joinGroups.eq_3 _ _ _ _ hc, ih fun hmem => hcs (List.mem_cons_of_mem c hmem)]
      rfl

theorem dropBaseMark_ten (cs : List Char) : dropBaseMark 10 cs = cs := by
  unfold dropBaseMark
  split
  · have hnone : baseLetter? 10 = none := rfl
    rw [hnone]
    rfl
  · rfl

/-- The number that characters make as digits to base ten, if all of them are. -/
def numberOfDigits? (cs : List Char) : Option Nat :=
  (cs.mapM (baseDigit? 10)).map fun values => values.foldl (fun n d => 10 * n + d) 0

/-- Digits without groups are read as the number that they stand for. -/
theorem numberOfDigits?_eq {digits : List Char} (hdigits : ∀ c ∈ digits, c.isDigit = true) :
    numberOfDigits? digits = some (digitsValue digits) := by
  have hvalues : ∀ cs : List Char, (∀ c ∈ cs, c.isDigit = true) →
      cs.mapM (baseDigit? 10) = some (cs.map fun c => c.toNat - '0'.toNat) := by
    intro cs hcs
    induction cs with
    | nil => rfl
    | cons c cs ih =>
        rw [List.mapM_cons, (plain_of_isDigit (hcs c List.mem_cons_self)).2.2.2.2,
          ih fun d hd => hcs d (List.mem_cons_of_mem c hd)]
        rfl
  unfold numberOfDigits? digitsValue
  rw [hvalues digits hdigits, Option.map_some, List.foldl_map]

/-- A minus sign is no digit. -/
theorem numberOfDigits?_minus (cs : List Char) : numberOfDigits? ('-' :: cs) = none := by
  have hminus : baseDigit? 10 '-' = none := by decide
  unfold numberOfDigits?
  rw [List.mapM_cons, hminus]
  rfl

/-- A text without blanks and underscores, in which every character stands for itself, is the number
of what is left behind its sign. -/
theorem integerOfText?_of_plain {s : String} (hblank : ∀ c ∈ s.toList, Text.isBlank c = false)
    (hplain : ∀ c ∈ s.toList, plainDigit c = c) {negative : Bool} {digits : List Char}
    (hsign : readSign s.toList = (negative, digits)) (hjoined : '_' ∉ digits) (hsome : digits ≠ []) :
    integerOfText? 10 s =
      if digits.length ≤ maxIntegerDigits then
        (numberOfDigits? digits).map fun n : Nat => (if negative then -(n : Int) else n)
      else none := by
  unfold integerOfText? numberOfDigits?
  rw [stripped_of_not_isBlank hblank, List.map_congr_left hplain, List.map_id', hsign]
  simp only [dropBaseMark_ten, joinGroups_of_not_mem _ hjoined, Option.bind_eq_bind,
    Option.bind_some]
  by_cases hfew : digits.length ≤ maxIntegerDigits
  · cases digits.mapM (baseDigit? 10) <;> simp [guard, hsome, hfew]
  · simp [guard, hsome, hfew]

/-- A numeral with at most one sign and not too many digits is the number of its digits, and any other
numeral is none. -/
theorem IsNumeral.integerOfText?_eq {name : String} {signs : Nat} {digits : List Char}
    (h : IsNumeral name signs digits) :
    integerOfText? 10 name =
      if 2 ≤ signs ∨ maxIntegerDigits < digits.length then none
      else some (if signs = 0 then (digitsValue digits : Int) else -digitsValue digits) := by
  have hchars : ∀ c ∈ name.toList, c = '-' ∨ c.isDigit = true := by
    intro c hc
    rw [h.spelled] at hc
    exact (List.mem_append.mp hc).imp List.eq_of_mem_replicate (h.decimal c)
  have hblank : ∀ c ∈ name.toList, Text.isBlank c = false := by
    intro c hc
    rcases hchars c hc with rfl | hdigit
    · decide
    · exact (plain_of_isDigit hdigit).2.1
  have hplain : ∀ c ∈ name.toList, plainDigit c = c := by
    intro c hc
    rcases hchars c hc with rfl | hdigit
    · decide
    · exact (plain_of_isDigit hdigit).1
  have hjoined : '_' ∉ digits := fun hmem =>
    (plain_of_isDigit (h.decimal '_' hmem)).2.2.2.1 (by decide)
  have hread := @integerOfText?_of_plain name hblank hplain
  rw [h.spelled] at hread
  match signs with
  | 0 =>
      have hsign : readSign digits = (false, digits) := by
        obtain ⟨d, ds, rfl⟩ := List.exists_cons_of_ne_nil h.nonempty
        have hd := (plain_of_isDigit (h.decimal d List.mem_cons_self)).2.2.2.1
        simp only [List.mem_cons, List.not_mem_nil, not_or, or_false] at hd
        exact readSign.eq_3 _ (fun _ heq => hd.1 (List.cons.inj heq).1)
          (fun _ heq => hd.2.1 (List.cons.inj heq).1)
      rw [hread hsign hjoined h.nonempty, numberOfDigits?_eq h.decimal]
      simp only [← not_lt]
      by_cases hmany : maxIntegerDigits < digits.length <;> simp [hmany]
  | 1 =>
      have hsign : readSign (List.replicate 1 '-' ++ digits) = (true, digits) := rfl
      rw [hread hsign hjoined h.nonempty, numberOfDigits?_eq h.decimal]
      simp only [← not_lt]
      by_cases hmany : maxIntegerDigits < digits.length <;> simp [hmany]
  | k + 2 =>
      -- a sign is taken off, and another one is left among the digits
      have hsign : readSign (List.replicate (k + 2) '-' ++ digits)
          = (true, '-' :: (List.replicate k '-' ++ digits)) := rfl
      rw [hread hsign (by simp [hjoined]) (by simp), numberOfDigits?_minus]
      simp

end Rostering.KeyPath
