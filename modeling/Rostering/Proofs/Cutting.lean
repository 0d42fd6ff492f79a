import Mathlib

/-!
# Texts that are cut at a character

Cutting a text at a character cuts the list of its characters there (`splitOn_char`). Texts are cut by
positions, and lists are not, so the proof follows the positions: a position is given by the
characters before it, those up to `l` that are done with and those in `m` of the part that is being
read.

## The architecture

* **`get_behind`**, **`next_behind`**, **`atEnd_behind_iff`** — what stands at a position, where the
  next one is, and when it is the last.
* **`splitOnAux_char`** — the loop, from any position on.
* **`splitOn_char`**, **`splitOn_eq_singleton`**, **`splitOn_of_one`** — whole texts: any, one without
  the character in it, and one with it in one place.
-/

namespace Rostering

section

open String (ofList utf8Len utf8Len_append utf8Len_cons utf8Len_nil utf8ByteSize_ofList
  ofList_append ofList_toList splitOnAux)

theorem get_behind (l m : List Char) (c : Char) (r : List Char) :
    String.Pos.Raw.get (ofList (l ++ m ++ c :: r)) ⟨utf8Len l + utf8Len m⟩ = c := by
  have h := String.get_of_valid (l ++ m) (c :: r)
  rwa [utf8Len_append] at h

theorem next_behind (l m : List Char) (c : Char) (r : List Char) :
    String.Pos.Raw.next (ofList (l ++ m ++ c :: r)) ⟨utf8Len l + utf8Len m⟩
      = ⟨utf8Len l + utf8Len m + c.utf8Size⟩ := by
  have h := String.next_of_valid (l ++ m) c r
  rwa [utf8Len_append] at h

theorem atEnd_behind_iff (l m r : List Char) :
    String.Pos.Raw.atEnd (ofList (l ++ m ++ r)) ⟨utf8Len l + utf8Len m⟩ = true ↔ r = [] := by
  cases r with
  | nil => simp [String.Pos.Raw.atEnd, -ofList_append, utf8ByteSize_ofList]
  | cons c r =>
      have hsize := c.utf8Size_pos
      simp [String.Pos.Raw.atEnd, -ofList_append, utf8ByteSize_ofList]
      omega

variable (sep : Char)

/-- Cutting at a character goes through the others once. Induction on those that are left; `m` are the
ones since the last cut. -/
theorem splitOnAux_char (r : List Char) : ∀ (l m : List Char) (acc : List String),
    splitOnAux (ofList (l ++ m ++ r)) (ofList [sep]) ⟨utf8Len l⟩ ⟨utf8Len l + utf8Len m⟩ 0 acc
      = acc.reverse ++ (List.splitOnPPrepend (· == sep) r m.reverse).map ofList := by
  have hget : String.Pos.Raw.get (ofList [sep]) 0 = sep := get_behind [] [] sep []
  have hnextSep : String.Pos.Raw.next (ofList [sep]) 0 = ⟨sep.utf8Size⟩ := by
    have h := next_behind [] [] sep []
    simpa using h
  induction r with
  | nil =>
      intro l m acc
      rw [splitOnAux, if_pos ((atEnd_behind_iff l m []).mpr rfl), String.extract_of_valid]
      simp
  | cons c r ih =>
      intro l m acc
      have hend := (atEnd_behind_iff l m (c :: r)).not.mpr (List.cons_ne_nil c r)
      have hnext := next_behind l m c r
      rw [splitOnAux, if_neg hend, get_behind, hget]
      by_cases hc : c = sep
      · subst hc
        have hdone : String.Pos.Raw.atEnd (ofList [c]) (String.Pos.Raw.next (ofList [c]) 0) = true := by
          rw [hnextSep]
          have h := (atEnd_behind_iff [] [c] []).mpr rfl
          simpa using h
        have hback : String.Pos.Raw.unoffsetBy ⟨utf8Len l + utf8Len m + c.utf8Size⟩
            (String.Pos.Raw.next (ofList [c]) 0) = ⟨utf8Len l + utf8Len m⟩ := by
          rw [hnextSep]
          simp [String.Pos.Raw.unoffsetBy]
        simp only [hnext]
        rw [if_pos (beq_self_eq_true _), if_pos hdone, hback, String.extract_of_valid]
        -- the next part starts behind the cut
        have h := ih (l ++ m ++ [c]) [] (ofList m :: acc)
        have hlength : utf8Len (l ++ m ++ [c]) = utf8Len l + utf8Len m + c.utf8Size := by
          simp [Nat.add_assoc]
        rw [hlength] at h
        simp only [List.append_assoc, List.singleton_append, List.append_nil, utf8Len_nil,
          Nat.add_zero] at h ⊢
        rw [h, List.splitOnPPrepend_cons_pos (by simp)]
        simp
      · have hother : (c == sep) = false := beq_eq_false_iff_ne.mpr hc
        have hstay : String.Pos.Raw.next (ofList (l ++ m ++ c :: r))
            (String.Pos.Raw.unoffsetBy ⟨utf8Len l + utf8Len m⟩ 0)
            = ⟨utf8Len l + utf8Len m + c.utf8Size⟩ := by
          rw [← hnext]
          rfl
        rw [if_neg (by simp [hother]), hstay]
        -- the character belongs to the part that was begun
        have h := ih l (m ++ [c]) acc
        simp only [utf8Len_append, utf8Len_cons, utf8Len_nil, Nat.zero_add, ← Nat.add_assoc] at h
        simp only [List.append_assoc, List.singleton_append] at h ⊢
        rw [h, @List.splitOnPPrepend_cons_neg _ (· == sep) _ _ _ hother, List.reverse_append]
        rfl

/-- A text is cut at each occurrence of the character, and nowhere else. -/
theorem splitOn_char (s : String) :
    s.splitOn (ofList [sep]) = (s.toList.splitOn sep).map ofList := by
  have h := splitOnAux_char sep s.toList [] [] []
  simp only [List.nil_append, List.append_nil, ofList_toList] at h
  have hsome : (ofList [sep] == "") = false := by
    rw [beq_eq_false_iff_ne]
    intro hempty
    have := congrArg String.toList hempty
    simp at this
  unfold String.splitOn
  rw [hsome]
  exact h
/-- A text without the character stays whole. -/
theorem splitOn_eq_singleton {s : String} (hs : sep ∉ s.toList) :
    s.splitOn (ofList [sep]) = [s] := by
  rw [splitOn_char, List.splitOn_eq_singleton hs]
  simp

/-- A text with the character in one place is cut there. -/
theorem splitOn_of_one {before after : String} (hbefore : sep ∉ before.toList)
    (hafter : sep ∉ after.toList) :
    (before ++ ofList [sep] ++ after).splitOn (ofList [sep]) = [before, after] := by
  have hchars : (before ++ ofList [sep] ++ after).toList
      = before.toList ++ sep :: after.toList := by
    rw [String.toList_append, String.toList_append, List.append_assoc, String.toList_ofList]
    rfl
  rw [splitOn_char, hchars, List.splitOn_append_cons_self, List.splitOn_eq_singleton hbefore,
    List.splitOn_eq_singleton hafter]
  simp

end

end Rostering
