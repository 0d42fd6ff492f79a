import Mathlib
import Rostering.Json.Printer
import Rostering.Json.Reader

/-!
# Texts between quotes

A text that is written between quotes is read back, whatever characters are in it and whether those
outside of ASCII are escaped or not.

## The architecture

The writer works on characters and the reader on units, which are characters or halves of pairs.

* **`readUnits_unitEscape`** — an escape of four hexadecimal digits is read as its number.
* **`charUnits`** — the units of one character; `readUnits_textChar` says that they are what is read
  of the character as it is written, one case for each way to write it.
* **`joinHalves_charUnits`** — the units of a character are joined to the character.
* **`readText_renderText`** — by induction over the text, all of it is read back.
-/

namespace Rostering

/-! ## Hexadecimal digits -/

/-- The last digit comes behind those of the rest. -/
theorem toList_hexDigits_succ (width n : Nat) (hwidth : 0 < width) :
    (hexDigits (width + 1) n).toList
      = (hexDigits width (n / 16)).toList ++ [Nat.digitChar (n % 16)] := by
  unfold hexDigits
  simp only [String.toList_ofList]
  by_cases hn : n < 16
  · have hrest : n / 16 = 0 := Nat.div_eq_of_lt hn
    rw [Nat.toDigits_of_lt_base hn, hrest, Nat.toDigits_of_lt_base (by decide), Nat.mod_eq_of_lt hn]
    obtain ⟨k, rfl⟩ : ∃ k, width = k + 1 := ⟨width - 1, by omega⟩
    simp [List.replicate_succ', Nat.digitChar]
  · rw [Nat.toDigits_of_base_le (by decide) (by omega), List.length_append, List.length_singleton,
      Nat.add_sub_add_right, List.append_assoc]

theorem toList_hexDigits_one {n : Nat} (hn : n < 16) :
    (hexDigits 1 n).toList = [Nat.digitChar n] := by
  unfold hexDigits
  rw [String.toList_ofList, Nat.toDigits_of_lt_base hn]
  rfl

theorem toList_hexDigits {n : Nat} (hn : n < 0x10000) :
    (hexDigits 4 n).toList = [Nat.digitChar (n / 4096), Nat.digitChar (n / 256 % 16),
      Nat.digitChar (n / 16 % 16), Nat.digitChar (n % 16)] := by
  have hfirst : n / 16 / 16 / 16 < 16 := by omega
  rw [toList_hexDigits_succ 3 n (by decide), toList_hexDigits_succ 2 _ (by decide),
    toList_hexDigits_succ 1 _ (by decide), toList_hexDigits_one hfirst]
  simp only [Nat.div_div_eq_div_mul, List.cons_append, List.nil_append]

namespace Json

theorem hexValue?_digitChar {d : Nat} (hd : d < 16) : hexValue? (Nat.digitChar d) = some d := by
  revert d
  decide

/-- Four hexadecimal digits are read as the number that they were written for. -/
theorem hexValue4?_digits {n : Nat} (hn : n < 0x10000) :
    hexValue4? (Nat.digitChar (n / 4096)) (Nat.digitChar (n / 256 % 16))
      (Nat.digitChar (n / 16 % 16)) (Nat.digitChar (n % 16)) = some n := by
  unfold hexValue4?
  simp only [hexValue?_digitChar (show n / 4096 < 16 by omega),
    hexValue?_digitChar (Nat.mod_lt _ (show 16 > 0 by decide)), Option.some.injEq]
  omega

/-! ## Units -/

theorem readUnits_unitEscape {n : Nat} (hn : n < 0x10000) (rest : List Char) :
    readUnits (unitEscape n ++ rest)
      = (readUnits rest).map fun (units, rest) => (n :: units, rest) := by
  unfold unitEscape
  rw [toList_hexDigits hn]
  simp only [List.cons_append, List.nil_append]
  rw [readUnits, hexValue4?_digits hn]

/-- An escape of one letter is read as the character that it stands for. -/
theorem readUnits_shortEscape {letter c : Char} (hletter : letter ≠ 'u')
    (hc : shortEscape? letter = some c) (rest : List Char) :
    readUnits ('\\' :: letter :: rest)
      = (readUnits rest).map fun (units, rest) => (c.toNat :: units, rest) := by
  rw [readUnits, hc]
  exact fun _ _ _ _ _ hu _ => hletter hu

/-- A character that needs no escape is read as itself. -/
theorem readUnits_plain {c : Char} (hquote : c ≠ '"') (hbackslash : c ≠ '\\')
    (hvisible : ¬ c.toNat < 0x20) (rest : List Char) :
    readUnits (c :: rest)
      = (readUnits rest).map fun (units, rest) => (c.toNat :: units, rest) := by
  rw [readUnits, if_neg (not_or.mpr ⟨hvisible, hbackslash⟩)]
  · exact fun h => hquote h
  · exact fun _ _ _ _ _ h _ => hbackslash h
  · exact fun _ _ h _ => hbackslash h

/-- The units that a character is written as: its code point, or two halves of a pair. -/
def charUnits (ascii : Bool) (c : Char) : List Nat :=
  if ascii && 0x10000 ≤ c.toNat then
    [0xD800 + (c.toNat - 0x10000) / 0x400, 0xDC00 + (c.toNat - 0x10000) % 0x400]
  else [c.toNat]

theorem charUnits_of_lt {c : Char} (hc : c.toNat < 0x10000) (ascii : Bool) :
    charUnits ascii c = [c.toNat] := by
  unfold charUnits
  rw [if_neg (by simp; omega)]

/-- No code point is a half of a pair, and none is above the last plane. -/
theorem toNat_char (c : Char) :
    (c.toNat < 0xD800 ∨ 0xDFFF < c.toNat) ∧ c.toNat < 0x110000 := by
  have hvalid := c.valid
  unfold UInt32.isValidChar Nat.isValidChar at hvalid
  have hval : c.toNat = c.val.toNat := rfl
  omega

/-- The escape of a character is read as its units. There is one for a character below the bound,
and beyond it there are two halves. -/
theorem readUnits_charEscape (c : Char) (rest : List Char) :
    readUnits (charEscape c ++ rest)
      = (readUnits rest).map fun (units, rest) => (charUnits true c ++ units, rest) := by
  unfold charEscape
  simp only
  split
  · next hsmall => rw [readUnits_unitEscape hsmall, charUnits_of_lt hsmall]; rfl
  · next hlarge =>
      have hrange := (toNat_char c).2
      -- the two halves carry ten bits each of what is above the bound
      have hunits : charUnits true c = [0xD800 + (c.toNat - 0x10000) / 0x400,
          0xDC00 + (c.toNat - 0x10000) % 0x400] := by
        unfold charUnits
        rw [if_pos (by simp; omega)]
      rw [List.append_assoc, readUnits_unitEscape (by omega), readUnits_unitEscape (by omega),
        hunits, Option.map_map]
      rfl

/-- A character as it is written is read as its units. Some characters have an escape of their own,
some are written by their units, and all others stand for themselves. -/
theorem readUnits_textChar (ascii : Bool) (c : Char) (rest : List Char) :
    readUnits (textChar ascii c ++ rest)
      = (readUnits rest).map fun (units, rest) => (charUnits ascii c ++ units, rest) := by
  -- the characters with escapes of their own, with the letter of the escape
  have hshort : ∀ letter, letter ≠ 'u' → shortEscape? letter = some c → c.toNat < 0x10000 →
      readUnits (['\\', letter] ++ rest)
        = (readUnits rest).map fun (units, rest) => (charUnits ascii c ++ units, rest) := by
    intro letter hletter hc hsmall
    rw [charUnits_of_lt hsmall]
    exact readUnits_shortEscape hletter hc rest
  unfold textChar
  split
  · next hc => exact hshort '"' (by decide) (by rw [hc]; rfl) (by rw [hc]; decide)
  split
  · next hc => exact hshort '\\' (by decide) (by rw [hc]; rfl) (by rw [hc]; decide)
  split
  · next hc => exact hshort 'n' (by decide) (by rw [hc]; rfl) (by rw [hc]; decide)
  split
  · next hc => exact hshort 'r' (by decide) (by rw [hc]; rfl) (by rw [hc]; decide)
  split
  · next hc => exact hshort 't' (by decide) (by rw [hc]; rfl) (by rw [hc]; decide)
  split
  · next hc => exact hshort 'b' (by decide) (by rw [hc]; rfl) (by rw [hc]; decide)
  split
  · next hc => exact hshort 'f' (by decide) (by rw [hc]; rfl) (by rw [hc]; decide)
  split
  · next hcontrol =>
      rw [readUnits_charEscape, charUnits_of_lt (by omega), charUnits_of_lt (by omega)]
  split
  · next hescaped =>
      rw [Bool.and_eq_true] at hescaped
      rw [readUnits_charEscape, hescaped.1]
  · next hquote hbackslash _ _ _ _ _ hvisible hplain =>
      have hunits : charUnits ascii c = [c.toNat] := by
        unfold charUnits
        rw [if_neg]
        simp only [Bool.and_eq_true, decide_eq_true_eq, not_and] at hplain ⊢
        exact fun hascii hlarge => hplain hascii (by omega)
      rw [hunits]
      exact readUnits_plain hquote hbackslash hvisible rest

/-! ## Joining -/

theorem not_half_char (c : Char) : isHighHalf c.toNat = false ∧ isLowHalf c.toNat = false := by
  have hc := (toNat_char c).1
  unfold isHighHalf isLowHalf
  simp only [Bool.and_eq_false_iff, decide_eq_false_iff_not]
  omega

/-- The units of a character are joined to the character. -/
theorem joinHalves_charUnits (ascii : Bool) (c : Char) (units : List Nat) :
    joinHalves (charUnits ascii c ++ units) = c :: joinHalves units := by
  unfold charUnits
  split
  · next hlarge =>
      simp only [Bool.and_eq_true, decide_eq_true_eq] at hlarge
      have hrange := (toNat_char c).2
      have hpair : (isHighHalf (0xD800 + (c.toNat - 0x10000) / 0x400)
          && isLowHalf (0xDC00 + (c.toNat - 0x10000) % 0x400)) = true := by
        unfold isHighHalf isLowHalf
        simp only [Bool.and_eq_true, decide_eq_true_eq]
        omega
      -- the halves are put together again with nothing lost
      have hjoined : 0x10000 + (0xD800 + (c.toNat - 0x10000) / 0x400 - 0xD800) * 0x400
          + (0xDC00 + (c.toNat - 0x10000) % 0x400 - 0xDC00) = c.toNat := by
        omega
      simp only [List.cons_append, List.nil_append]
      rw [joinHalves, if_pos hpair, hjoined, Char.ofNat_toNat]
  · obtain ⟨hhigh, hlow⟩ := not_half_char c
    cases units with
    | nil => simp [joinHalves, hhigh, hlow]
    | cons unit units =>
        simp only [List.cons_append, List.nil_append]
        rw [joinHalves, hhigh, hlow]
        simp

theorem joinHalves_flatMap_charUnits (ascii : Bool) (cs : List Char) :
    joinHalves (cs.flatMap (charUnits ascii)) = cs := by
  induction cs with
  | nil => rfl
  | cons c cs ih => rw [List.flatMap_cons, joinHalves_charUnits, ih]

/-! ## Texts -/

theorem readUnits_flatMap_textChar (ascii : Bool) (cs rest : List Char) :
    readUnits (cs.flatMap (textChar ascii) ++ '"' :: rest)
      = some (cs.flatMap (charUnits ascii), rest) := by
  induction cs with
  | nil => rw [List.flatMap_nil, List.nil_append, readUnits]; rfl
  | cons c cs ih =>
      rw [List.flatMap_cons, List.append_assoc, readUnits_textChar, ih]
      rfl

/-- Behind its opening quote, a text is read back up to its closing quote. -/
theorem readText_renderText (ascii : Bool) (s : String) (rest : List Char) :
    ∃ cs, renderText ascii s = '"' :: cs ∧ readText (cs ++ rest) = some (s.toList, rest) := by
  refine ⟨_, rfl, ?_⟩
  unfold readText
  rw [List.append_assoc, List.singleton_append, readUnits_flatMap_textChar]
  simp only [Option.map_some, joinHalves_flatMap_charUnits]

end Json

end Rostering
