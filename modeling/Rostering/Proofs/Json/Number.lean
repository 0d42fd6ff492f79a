import Mathlib
import Rostering.Json.Printer
import Rostering.Json.Reader

/-!
# Numbers in text

A number that is written is read back, whatever comes behind it, provided that what comes behind
does not go on like a number.

## The architecture

* **`EndsNumber`** — what may come behind a number. Each piece of the number reader is then
  indifferent to it (`readWhole_append`, `readFraction_append`, `readExponent_append`), and so is the
  reader of whole numbers (`readNumber_append`).
* **`readValue_int`** — an integer is read back: its digits do not start with a zero unless it is
  zero, and they stand for it.
* **`ReadsBack`** — the text of a float is read as the float. That is a question about decimal
  fractions for a finite float; the others have words (`readsBack_of_not_finite`).
* **`readValue_float`** — a float that reads back does so inside of a longer text.
-/

namespace Rostering.Json

/-! ## What comes behind a number -/

/-- The text does not go on like a number: it starts with none of the characters that may stand in
one. -/
def EndsNumber (rest : List Char) : Prop :=
  ∀ c, rest.head? = some c → c.isDigit = false ∧ c ∉ ['.', 'e', 'E', '+', '-']

theorem endsNumber_nil : EndsNumber [] := by
  intro c hc
  cases hc

theorem endsNumber_cons {c : Char} (hdigit : c.isDigit = false)
    (hmark : c ∉ ['.', 'e', 'E', '+', '-']) (rest : List Char) : EndsNumber (c :: rest) := by
  intro d hd
  cases hd
  exact ⟨hdigit, hmark⟩

theorem readFraction_of_ne {cs : List Char} (hcs : ∀ tail, cs ≠ '.' :: tail) :
    readFraction cs = (none, cs) := by
  unfold readFraction
  split
  · exact absurd rfl (hcs _)
  · rfl

theorem readWhole_of_ne {cs : List Char} (hcs : ∀ tail, cs ≠ '0' :: tail) :
    readWhole cs = if (spanDigits cs).1.isEmpty then none else some (spanDigits cs) := by
  unfold readWhole
  split
  · exact absurd rfl (hcs _)
  · rfl

section Pieces

variable {rest : List Char} (hrest : EndsNumber rest)
include hrest

/-- What comes behind a number does not add to its digits. -/
theorem spanDigits_append (cs : List Char) :
    spanDigits (cs ++ rest) = ((spanDigits cs).1, (spanDigits cs).2 ++ rest) := by
  unfold spanDigits
  induction cs with
  | nil =>
      cases rest with
      | nil => rfl
      | cons c rest =>
          have hc := (hrest c rfl).1
          simp [hc]
  | cons c cs ih =>
      -- digits are passed over one by one, and the first other character stops both runs
      cases hc : c.isDigit with
      | true =>
          simp only [List.cons_append, List.takeWhile_cons, List.dropWhile_cons, hc, if_true]
          rw [(Prod.mk.inj ih).1, (Prod.mk.inj ih).2]
      | false => simp [hc]

/-- What comes behind a number does not begin its fraction. This is why a number can be read without
looking where it ends. -/
theorem readFraction_append (cs : List Char) :
    readFraction (cs ++ rest) = ((readFraction cs).1, (readFraction cs).2 ++ rest) := by
  cases cs with
  | nil =>
      have hpoint : ∀ tail, rest ≠ '.' :: tail := by
        intro tail htail
        have hmark := (hrest '.' (by rw [htail]; rfl)).2
        simp at hmark
      rw [List.nil_append, readFraction_of_ne hpoint]
      rfl
  | cons c cs =>
      -- without a point nothing is read, whatever follows
      by_cases hc : c = '.'
      · subst hc
        unfold readFraction
        simp only [List.cons_append, spanDigits_append hrest]
        split <;> rfl
      · have hpoint : ∀ cs tail, c :: cs ≠ '.' :: tail := fun cs tail h => hc (List.cons.inj h).1
        rw [List.cons_append, readFraction_of_ne (hpoint _), readFraction_of_ne (hpoint _)]
        rfl

/-- What comes behind a number is no sign of an exponent. -/
theorem readSign_append (cs : List Char) :
    readSign (cs ++ rest) = ((readSign cs).1, (readSign cs).2 ++ rest) := by
  cases cs with
  | nil =>
      have hsign : ∀ c, rest.head? = some c → c ≠ '-' ∧ c ≠ '+' := by
        intro c hc
        have hmark := (hrest c hc).2
        simp only [List.mem_cons, not_or] at hmark
        exact ⟨hmark.2.2.2.2.1, hmark.2.2.2.1⟩
      cases rest with
      | nil => rfl
      | cons c rest =>
          obtain ⟨hminus, hplus⟩ := hsign c rfl
          simp [readSign, hminus, hplus]
  | cons c cs =>
      by_cases hminus : c = '-'
      · subst hminus
        rfl
      · by_cases hplus : c = '+'
        · subst hplus
          rfl
        · simp [readSign, hminus, hplus]

/-- What comes behind a number does not begin its exponent. -/
theorem readExponent_append (cs : List Char) :
    readExponent (cs ++ rest) = ((readExponent cs).1, (readExponent cs).2 ++ rest) := by
  cases cs with
  | nil =>
      cases rest with
      | nil => rfl
      | cons c rest =>
          have hmark := (hrest c rfl).2
          have hletter : ¬ (c = 'e' ∨ c = 'E') := by
            rintro (rfl | rfl) <;> simp at hmark
          simp [readExponent, hletter]
  | cons c cs =>
      unfold readExponent
      simp only [List.cons_append, readSign_append hrest, spanDigits_append hrest]
      split
      · split <;> rfl
      · rfl

/-- What comes behind a number does not add to its whole part. -/
theorem readWhole_append (cs : List Char) :
    readWhole (cs ++ rest) = (readWhole cs).map fun (whole, tail) => (whole, tail ++ rest) := by
  -- a leading zero stands alone; all other whole parts are runs of digits
  have hother : ∀ cs, (∀ tail, cs ≠ '0' :: tail) → (∀ tail, cs ++ rest ≠ '0' :: tail) →
      readWhole (cs ++ rest) = (readWhole cs).map fun (whole, tail) => (whole, tail ++ rest) := by
    intro cs hcs happend
    rw [readWhole_of_ne hcs, readWhole_of_ne happend, spanDigits_append hrest]
    simp only
    split <;> rfl
  cases cs with
  | nil =>
      refine hother [] (fun tail h => by cases h) fun tail htail => ?_
      have hzero := (hrest '0' (by rw [← List.nil_append rest, htail]; rfl)).1
      cases hzero
  | cons c cs =>
      by_cases hzero : c = '0'
      · subst hzero
        rfl
      · exact hother (c :: cs) (fun tail h => hzero (List.cons.inj h).1)
          fun tail h => hzero (List.cons.inj h).1

/-- Reading a number is indifferent to what comes behind it. -/
theorem readNumber_append (negative : Bool) (cs : List Char) :
    readNumber negative (cs ++ rest)
      = (readNumber negative cs).map fun (v, tail) => (v, tail ++ rest) := by
  unfold readNumber
  rw [readWhole_append hrest]
  cases readWhole cs with
  | none => rfl
  | some read =>
      obtain ⟨whole, tail⟩ := read
      simp only [Option.map_some, Option.bind_eq_bind, Option.bind_some,
        readFraction_append hrest, readExponent_append hrest]
      split
      · split <;> rfl
      · rfl

end Pieces

/-! ## The first character -/

theorem readValue_of_digit {c : Char} (hc : c.isDigit = true) (fuel : Nat) (cs : List Char) :
    readValue (fuel + 1) (c :: cs) = readNumber false (c :: cs) := by
  have hquote : c ≠ '"' := by rintro rfl; cases hc
  have hlist : c ≠ '[' := by rintro rfl; cases hc
  have hmap : c ≠ '\x7b' := by rintro rfl; cases hc
  rw [readValue, if_neg hquote, if_neg hlist, if_neg hmap, if_pos hc]

theorem dropWord_of_ne {w c : Char} (h : w ≠ c) (word cs : List Char) :
    dropWord (w :: word) (c :: cs) = none := by
  rw [dropWord, if_neg h]

theorem readWord_of_minus_digit {c : Char} (hc : c.isDigit = true) (cs : List Char) :
    readWord ('-' :: c :: cs) = none := by
  have hletter : 'I' ≠ c := by rintro rfl; cases hc
  have hinfinity : dropWord "-Infinity".toList ('-' :: c :: cs) = none := by
    show dropWord ['-', 'I', 'n', 'f', 'i', 'n', 'i', 't', 'y'] ('-' :: c :: cs) = none
    rw [dropWord, if_pos rfl, dropWord_of_ne hletter]
  unfold readWord
  simp only [hinfinity]
  rfl

theorem readValue_of_minus_digit {c : Char} (hc : c.isDigit = true) (fuel : Nat)
    (cs : List Char) :
    readValue (fuel + 1) ('-' :: c :: cs) = readNumber true (c :: cs) := by
  rw [readValue, if_neg (by decide), if_neg (by decide), if_neg (by decide), if_neg (by decide),
    readWord_of_minus_digit hc]
  rfl

/-! ## Integers -/

/-- The digits of a number that is not zero do not start with a zero. By strong induction, as the
last digit comes behind those of a tenth of the number. -/
theorem head_toDigits {n : Nat} (hn : n ≠ 0) (tail : List Char) :
    Nat.toDigits 10 n ≠ '0' :: tail := by
  induction n using Nat.strongRecOn generalizing tail with
  | ind n ih =>
      -- a number of one digit, or one whose digits begin with those of its tenth
      by_cases hsmall : n < 10
      · rw [Nat.toDigits_of_lt_base hsmall]
        interval_cases n <;> simp_all [Nat.digitChar]
      · rw [Nat.toDigits_of_base_le (by decide) (by omega)]
        have htenth := ih (n / 10) (by omega) (by omega)
        cases hdigits : Nat.toDigits 10 (n / 10) with
        | nil => exact absurd hdigits Nat.toDigits_ne_nil
        | cons first others =>
            intro h
            rw [List.cons_append, List.cons.injEq] at h
            exact htenth others (by rw [hdigits, h.1])

theorem spanDigits_toDigits (n : Nat) :
    spanDigits (Nat.toDigits 10 n) = (Nat.toDigits 10 n, []) := by
  have hdigits : ∀ c ∈ Nat.toDigits 10 n, c.isDigit = true := fun c hc =>
    Nat.isDigit_of_mem_toDigits (by decide) (by decide) hc
  unfold spanDigits
  rw [List.takeWhile_eq_self_iff.mpr hdigits, List.dropWhile_eq_nil_iff.mpr hdigits]

theorem readWhole_toDigits (n : Nat) :
    readWhole (Nat.toDigits 10 n) = some (Nat.toDigits 10 n, []) := by
  by_cases hn : n = 0
  · rw [hn]
    rfl
  · rw [readWhole_of_ne (head_toDigits hn), spanDigits_toDigits,
      List.isEmpty_eq_false_iff.mpr Nat.toDigits_ne_nil]
    rfl

/-- Digits are read as the number that they were written for. -/
theorem readNumber_toDigits {n : Nat} (hn : (Nat.toDigits 10 n).length ≤ maxIntegerDigits)
    (negative : Bool) :
    readNumber negative (Nat.toDigits 10 n)
      = some (.int (if negative then -(n : Int) else n), []) := by
  have hvalue : digitsValue (Nat.toDigits 10 n) = n := Nat.ofDigitChars_ten_toDigits
  unfold readNumber
  simp only [readWhole_toDigits, Option.bind_eq_bind, Option.bind_some, readFraction, readExponent,
    if_neg (Nat.not_lt.mpr hn), hvalue, Int.ofNat_eq_natCast]

theorem toList_toString_int (n : Int) :
    (toString n).toList = (if n < 0 then ['-'] else []) ++ Nat.toDigits 10 n.natAbs := by
  cases n with
  | ofNat m => simp [toString, Int.repr]
  | negSucc m => simp [toString, Int.repr, Int.negSucc_lt_zero]

/-- An integer is read back, whatever comes behind it. The text behind it must not begin with what
could belong to a number, as no closing bracket, comma or blank does. -/
theorem readValue_int {n : Int} (hn : (Nat.toDigits 10 n.natAbs).length ≤ maxIntegerDigits)
    {fuel : Nat} (hfuel : 0 < fuel) {rest : List Char} (hrest : EndsNumber rest) :
    readValue fuel ((toString n).toList ++ rest) = some (.int n, rest) := by
  obtain ⟨fuel, rfl⟩ : ∃ k, fuel = k + 1 := ⟨fuel - 1, by omega⟩
  have hread : ∀ negative, readNumber negative (Nat.toDigits 10 n.natAbs ++ rest)
      = some (.int (if negative then -(n.natAbs : Int) else n.natAbs), rest) := by
    intro negative
    rw [readNumber_append hrest, readNumber_toDigits hn]
    rfl
  -- the first digit tells the reader that a number begins
  obtain ⟨d, digits, hdigits⟩ := List.exists_cons_of_ne_nil
    (Nat.toDigits_ne_nil (n := n.natAbs) (b := 10))
  have hd : d.isDigit = true :=
    Nat.isDigit_of_mem_toDigits (n := n.natAbs) (b := 10) (by decide) (by decide)
      (by rw [hdigits]; exact List.mem_cons_self)
  rw [hdigits, List.cons_append] at hread
  rw [toList_toString_int, hdigits]
  by_cases hnegative : n < 0
  · have hvalue : -(n.natAbs : Int) = n := by omega
    rw [if_pos hnegative, List.singleton_append, List.cons_append, List.cons_append,
      readValue_of_minus_digit hd, hread, if_pos rfl, hvalue]
  · have hvalue : (n.natAbs : Int) = n := by omega
    rw [if_neg hnegative, List.nil_append, List.cons_append, readValue_of_digit hd, hread,
      if_neg Bool.false_ne_true, hvalue]

/-! ## Floats that are not finite -/

/-- An infinite float is one of two. -/
theorem eq_of_parts_infinite {x : Float} {negative : Bool}
    (hx : FloatParts.of x = .infinite negative) :
    x = if negative then -1.0 / 0.0 else 1.0 / 0.0 := by
  have hparts : x.toBits.toNat / twoTo 52 % 2048 = 2047 ∧ x.toBits.toNat % twoTo 52 = 0
      ∧ (x.toBits.toNat / twoTo 63 == 1) = negative := by
    unfold FloatParts.of at hx
    grind
  have hrange := x.toBits.toNat_lt
  simp only [twoTo, Nat.pow_eq, Nat.reducePow] at hparts
  obtain ⟨hexponent, hfraction, hsign⟩ := hparts
  have hbits : x.toBits = if negative then 0xFFF0000000000000 else 0x7FF0000000000000 := by
    apply UInt64.toNat_inj.mp
    cases negative with
    | true =>
        rw [beq_iff_eq] at hsign
        simp only [if_true, UInt64.reduceToNat]
        omega
    | false =>
        rw [beq_eq_false_iff_ne] at hsign
        simp only [Bool.false_eq_true, if_false, UInt64.reduceToNat]
        omega
  rw [← Float.ofBits_toBits x, hbits]
  cases negative <;> decide +kernel

/-- There is one float that is not a number. -/
theorem eq_of_parts_nan {x : Float} (hx : FloatParts.of x = .nan) : x = 0.0 / 0.0 := by
  have hparts : x.toBits.toNat / twoTo 52 % 2048 = 2047 ∧ x.toBits.toNat % twoTo 52 ≠ 0 := by
    unfold FloatParts.of at hx
    grind
  simp only [twoTo, Nat.pow_eq, Nat.reducePow] at hparts
  obtain ⟨hexponent, hfraction⟩ := hparts
  have hbits : x.toBits.toBitVec
      = Float.Model.UnpackedFloat.packedNaN Float.Model.Format.binary64 := by
    refine x.toModel.valid.eq_packedNaN ?_ fun hzero => hfraction ?_
    · apply BitVec.eq_of_toNat_eq
      simpa [Float.Model.UnpackedFloat.unpackExponent, Nat.shiftRight_eq_div_pow, Float.toBits]
        using hexponent
    · have hnat := congrArg BitVec.toNat hzero
      simpa [Float.Model.UnpackedFloat.unpackMantissa, Float.toBits] using hnat
  have hcanonical : x.toBits = 0x7FF8000000000000 :=
    UInt64.toBitVec_inj.mp (hbits.trans (by decide))
  rw [← Float.ofBits_toBits x, hcanonical]
  decide +kernel

/-! ## Floats -/

/-- The text of a float is read as the float. -/
def ReadsBack (x : Float) : Prop :=
  readValue 1 (floatFormat.text x).toList = some (.float x, [])

/-- The float that a whole text is read as. -/
def readFloat? (cs : List Char) : Option Float :=
  match readValue 1 cs with
  | some (.float x, []) => some x
  | _ => none

instance (x : Float) : Decidable (ReadsBack x) :=
  decidable_of_iff (readFloat? (floatFormat.text x).toList = some x) (by
    unfold ReadsBack readFloat?
    split
    · next h => simp [h]
    · next h =>
        simp only [reduceCtorEq, false_iff]
        exact h x)

example : ReadsBack 0.1 ∧ ReadsBack 5e-324 ∧ ReadsBack (-1.7976931348623157e308) := by
  decide +kernel

/-- Infinite floats and what is not a number are read back, by their words. -/
theorem readsBack_of_not_finite {x : Float} (hx : floatIsFinite x = false) : ReadsBack x := by
  unfold ReadsBack FloatFormat.text
  cases hparts : FloatParts.of x with
  | nan =>
      rw [eq_of_parts_nan hparts]
      rfl
  | infinite negative =>
      rw [eq_of_parts_infinite hparts]
      cases negative <;> rfl
  | finite negative mantissa exponent =>
      unfold floatIsFinite at hx
      rw [hparts] at hx
      cases hx

theorem dropWord_eq_some {word cs rest : List Char} :
    dropWord word cs = some rest ↔ cs = word ++ rest := by
  induction word generalizing cs with
  | nil => simp [dropWord]
  | cons w word ih =>
      cases cs with
      | nil => simp [dropWord]
      | cons c cs =>
          by_cases h : w = c
          · subst h
            simp [dropWord, ih]
          · simp [dropWord, h, Ne.symm h]

/-- A float that is read from a word is read from one of three. -/
theorem readWord_eq_float {cs rest : List Char} {x : Float}
    (hread : readWord cs = some (.float x, rest)) :
    ∃ word ∈ ["NaN", "Infinity", "-Infinity"], cs = word.toList ++ rest := by
  unfold readWord at hread
  simp only [Option.orElse_eq_orElse, Option.orElse_eq_or, Option.or_eq_some_iff,
    Option.map_eq_some_iff, Prod.mk.injEq, reduceCtorEq, false_and, and_false, exists_false,
    false_or, dropWord_eq_some, exists_eq_right_right] at hread
  obtain ⟨-, -, -, ⟨hnan, -⟩ | ⟨-, ⟨hinfinity, -⟩ | ⟨-, hminus, -⟩⟩⟩ := hread
  · exact ⟨"NaN", by decide, hnan⟩
  · exact ⟨"Infinity", by decide, hinfinity⟩
  · exact ⟨"-Infinity", by decide, hminus⟩

theorem isDigit_of_readNumber {negative : Bool} {cs rest : List Char} {v : Value}
    (hread : readNumber negative cs = some (v, rest)) :
    ∃ c tail, cs = c :: tail ∧ c.isDigit = true := by
  unfold readNumber at hread
  obtain ⟨read, hwhole, -⟩ := Option.bind_eq_some_iff.mp hread
  unfold readWhole spanDigits at hwhole
  split at hwhole
  · exact ⟨'0', _, rfl, rfl⟩
  · cases cs with
    | nil => cases hwhole
    | cons c cs =>
        cases hc : c.isDigit with
        | true => exact ⟨c, cs, rfl, hc⟩
        | false => simp [hc] at hwhole

/-- A float that is read as a whole text is read from a number, from a minus and a number, or from
a word. -/
theorem readValue_eq_float {cs : List Char} {x : Float}
    (hread : readValue 1 cs = some (.float x, [])) :
    (∃ c tail, cs = c :: tail ∧ c.isDigit = true ∧ readNumber false cs = some (.float x, []))
      ∨ (∃ c tail, cs = '-' :: c :: tail ∧ c.isDigit = true
        ∧ readNumber true (c :: tail) = some (.float x, []))
      ∨ ∃ word ∈ ["NaN", "Infinity", "-Infinity"], cs = word.toList := by
  cases cs with
  | nil => cases hread
  | cons c tail =>
      rw [readValue] at hread
      split at hread
      · -- a text
        simp at hread
      split at hread
      · -- a list
        split at hread
        · simp at hread
        · simp [readValue] at hread
      split at hread
      · -- a mapping
        split at hread
        · simp at hread
        · simp [readField] at hread
      split at hread
      · next hdigit => exact Or.inl ⟨c, tail, rfl, hdigit, hread⟩
      split at hread
      · next found hword =>
          rw [hread] at hword
          obtain ⟨word, hmem, hcs⟩ := readWord_eq_float hword
          exact Or.inr (Or.inr ⟨word, hmem, by rw [hcs, List.append_nil]⟩)
      · split at hread
        · next hminus =>
            obtain ⟨d, digits, rfl, hd⟩ := isDigit_of_readNumber hread
            exact Or.inr (Or.inl ⟨d, digits, by rw [hminus], hd, hread⟩)
        · cases hread

/-- A float that reads back does so whatever comes behind it. Whether its own text reads back is a
matter of the float; here it is only shown that the context does not matter. -/
theorem readValue_float {x : Float} (hx : ReadsBack x) {fuel : Nat} (hfuel : 0 < fuel)
    {rest : List Char} (hrest : EndsNumber rest) :
    readValue fuel ((floatFormat.text x).toList ++ rest) = some (.float x, rest) := by
  obtain ⟨fuel, rfl⟩ : ∃ k, fuel = k + 1 := ⟨fuel - 1, by omega⟩
  unfold ReadsBack at hx
  rcases readValue_eq_float hx with ⟨c, tail, hcs, hc, hread⟩ | ⟨c, tail, hcs, hc, hread⟩
    | ⟨word, hword, hcs⟩
  · have happend := readNumber_append hrest false (c :: tail)
    rw [← hcs, hread, hcs] at happend
    rw [hcs, List.cons_append, readValue_of_digit hc]
    exact happend
  · have happend := readNumber_append hrest true (c :: tail)
    rw [hread] at happend
    rw [hcs, List.cons_append, List.cons_append, readValue_of_minus_digit hc]
    exact happend
  · rw [hcs] at hx ⊢
    simp only [List.mem_cons, List.not_mem_nil, or_false] at hword
    -- the float is the one that the word stands for
    rcases hword with rfl | rfl | rfl
    all_goals
      cases hx
      rfl

end Rostering.Json
