import Mathlib
import Rostering.Proofs.Json.Document
import Rostering.Proofs.Json.Number
import Rostering.Proofs.Json.Text

/-!
# Documents as text

A document is written as text that is read as the document, on indented lines or on one line, with
whatever may come behind it. Different documents have different texts.

## The architecture

* **`Style.IsLawful`** — between tokens a style puts white space, commas and colons.
* **`Written`** — at every depth a value has a text, and that text is read as the value with as much
  fuel as it has characters.
* **`readItems_renderItems`**, **`readFields_renderEntries`** — if the parts are written, what is
  behind the first part is read up to the bracket that closes it. Induction on the parts.
* **`written`** — every document whose floats read back is written, by induction on the document.
* **`parse?_print?`** — reading inverts writing; **`print?_injective`** follows.
-/

namespace Rostering.Json

/-! ## White space -/

section Space

variable {blanks : List Char} (hblanks : ∀ c ∈ blanks, isSpace c = true)
include hblanks

theorem skipSpace_append {c : Char} (hc : isSpace c = false) (cs : List Char) :
    skipSpace (blanks ++ c :: cs) = c :: cs := by
  unfold skipSpace
  rw [List.dropWhile_append_of_pos hblanks, List.dropWhile_cons, hc]
  rfl

theorem skipSpace_renderText (ascii : Bool) (s : String) (cs : List Char) :
    skipSpace (blanks ++ (renderText ascii s ++ cs)) = renderText ascii s ++ cs :=
  skipSpace_append hblanks (by decide) _

/-- White space ends a number. -/
theorem endsNumber_append {rest : List Char} (hrest : EndsNumber rest) :
    EndsNumber (blanks ++ rest) := by
  cases blanks with
  | nil => exact hrest
  | cons c blanks =>
      have hc := hblanks c List.mem_cons_self
      unfold isSpace at hc
      simp only [Bool.or_eq_true, beq_iff_eq, or_assoc] at hc
      rcases hc with rfl | rfl | rfl | rfl
      all_goals exact endsNumber_cons rfl (by simp) _

end Space

/-- A value starts with no white space and with no closing bracket. -/
theorem start_of_readValue {fuel : Nat} {cs : List Char} {r : Value × List Char}
    (hread : readValue fuel cs = some r) :
    ∃ c tail, cs = c :: tail ∧ isSpace c = false ∧ c ≠ ']' := by
  cases fuel with
  | zero => simp [readValue] at hread
  | succ fuel =>
      cases cs with
      | nil => simp [readValue] at hread
      | cons c tail =>
          refine ⟨c, tail, rfl, ?_, ?_⟩
          · rw [Bool.eq_false_iff]
            intro hspace
            unfold isSpace at hspace
            simp only [Bool.or_eq_true, beq_iff_eq, or_assoc] at hspace
            rcases hspace with rfl | rfl | rfl | rfl
            all_goals simp [readValue, readWord, dropWord] at hread
          -- no value begins with this bracket, since no word does
          · rintro rfl
            simp [readValue, readWord, dropWord] at hread

/-! ## Styles -/

/-- Between tokens stands white space, apart from the commas and colons that have to be there. -/
structure Style.IsLawful (st : Style) : Prop where
  comma : ∃ blanks, st.comma = ',' :: blanks ∧ ∀ c ∈ blanks, isSpace c = true
  colon : ∃ blanks, st.colon = ':' :: blanks ∧ ∀ c ∈ blanks, isSpace c = true

theorem Style.isLawful_indented : Style.indented.IsLawful :=
  ⟨⟨[], rfl, by simp⟩, ⟨[' '], rfl, by simp [isSpace]⟩⟩

theorem Style.isLawful_spaced : Style.spaced.IsLawful :=
  ⟨⟨[' '], rfl, by simp [isSpace]⟩, ⟨[' '], rfl, by simp [isSpace]⟩⟩

theorem Style.isSpace_line (st : Style) (depth : Nat) : ∀ c ∈ st.line depth, isSpace c = true := by
  intro c hc
  unfold Style.line at hc
  split at hc
  · cases List.mem_cons.mp hc with
    | inl hnewline =>
        rw [hnewline]
        rfl
    | inr hblank =>
        rw [List.eq_of_mem_replicate hblank]
        rfl
  · exact absurd hc List.not_mem_nil

/-! ## Parts -/

/-- The text is read as the value, whatever comes behind it. -/
def Reads (cs : List Char) (v : Value) : Prop :=
  ∀ fuel rest, cs.length ≤ fuel → EndsNumber rest → readValue fuel (cs ++ rest) = some (v, rest)

/-- At every depth the value has a text, and is what the text is read as. -/
def Written (st : Style) (v : Value) : Prop :=
  ∀ depth, ∃ cs, render st depth v = some cs ∧ Reads cs v

namespace Reads

variable {cs : List Char} {v : Value} (hcs : Reads cs v) {rest : List Char}
  (hrest : EndsNumber rest)
include hcs hrest

theorem start : ∃ c tail, cs ++ rest = c :: tail ∧ isSpace c = false ∧ c ≠ ']' :=
  start_of_readValue (hcs _ rest le_rfl hrest)

theorem skipSpace_append {blanks : List Char} (hblanks : ∀ c ∈ blanks, isSpace c = true) :
    skipSpace (blanks ++ (cs ++ rest)) = cs ++ rest := by
  obtain ⟨c, tail, heq, hspace, -⟩ := hcs.start hrest
  rw [heq]
  exact Json.skipSpace_append hblanks hspace tail

/-- White space in front of a value is skipped. -/
theorem readValue_skipSpace {blanks : List Char} (hblanks : ∀ c ∈ blanks, isSpace c = true)
    (fuel : Nat) (hfuel : cs.length ≤ fuel) :
    readValue fuel (skipSpace (blanks ++ (cs ++ rest))) = some (v, rest) := by
  rw [hcs.skipSpace_append hrest hblanks]
  exact hcs fuel rest hfuel hrest

end Reads

/-- What closes a list or a mapping ends a number, and so does a comma. -/
theorem endsNumber_close {cs blanks : List Char} (hcs : cs = [] ∨ ∃ tail, cs = ',' :: tail)
    (hblanks : ∀ c ∈ blanks, isSpace c = true) {close : Char}
    (hclose : close = ']' ∨ close = '\x7d') (rest : List Char) :
    EndsNumber (cs ++ (blanks ++ close :: rest)) := by
  cases hcs with
  | inl hnil =>
      rw [hnil, List.nil_append]
      refine endsNumber_append hblanks ?_
      rcases hclose with rfl | rfl
      all_goals exact endsNumber_cons rfl (by simp) rest
  | inr hcomma =>
      obtain ⟨tail, rfl⟩ := hcomma
      exact endsNumber_cons rfl (by simp) _

section Parts

variable {st : Style} (hst : st.IsLawful)
include hst

/-- What is behind the first item of a list is read up to the closing bracket. The fuel only has to
exceed the length of the text. -/
theorem readItems_renderItems {items : List Value} (hitems : ∀ v ∈ items, Written st v)
    (depth : Nat) :
    ∃ cs, renderItems st depth items = some cs ∧ (cs = [] ∨ ∃ tail, cs = ',' :: tail)
      ∧ ∀ fuel blanks rest, cs.length < fuel → (∀ c ∈ blanks, isSpace c = true) →
        readItems fuel (skipSpace (cs ++ (blanks ++ ']' :: rest))) = some (items, rest) := by
  induction items with
  | nil =>
      refine ⟨[], by rw [renderItems], Or.inl rfl, fun fuel blanks rest hfuel hblanks => ?_⟩
      obtain ⟨fuel, rfl⟩ : ∃ k, fuel = k + 1 := ⟨fuel - 1, by omega⟩
      rw [List.nil_append, skipSpace_append hblanks (by decide), readItems, if_pos rfl]
  | cons v items ih =>
      obtain ⟨first, hfirst, hreads⟩ := hitems v List.mem_cons_self depth
      -- the other items begin with a comma or are not there, so that a number in front of them ends
      obtain ⟨others, hothers, hstart, hread⟩ := ih fun w hw => hitems w (List.mem_cons_of_mem v hw)
      obtain ⟨space, hcomma, hspace⟩ := hst.comma
      -- blanks between the comma and the item are skipped, whatever the style puts there
      have hline : ∀ c ∈ space ++ st.line depth, isSpace c = true := fun c hc =>
        (List.mem_append.mp hc).elim (hspace c) (st.isSpace_line depth c)
      refine ⟨',' :: (space ++ st.line depth ++ (first ++ others)), ?_, Or.inr ⟨_, rfl⟩, ?_⟩
      · rw [renderItems, hfirst, hothers, hcomma]
        simp only [List.cons_append, List.append_assoc]
      · intro fuel blanks rest hfuel hblanks
        obtain ⟨fuel, rfl⟩ : ∃ k, fuel = k + 1 := ⟨fuel - 1, by omega⟩
        simp only [List.length_cons, List.length_append] at hfuel
        have hvalue := hreads.readValue_skipSpace
          (endsNumber_close hstart hblanks (Or.inl rfl) rest) hline fuel (by omega)
        have hmore := hread fuel blanks rest (by omega) hblanks
        simp only [List.cons_append, List.append_assoc] at hvalue ⊢
        rw [← List.nil_append (',' :: _), skipSpace_append (by simp) (by decide), readItems,
          if_neg (by decide), if_pos rfl, hvalue]
        simp only [hmore, Option.map_some]

/-- A field is read as its name and its value. -/
theorem readField_text {cs : List Char} {v : Value} (hcs : Reads cs v) (name : String)
    (fuel : Nat)
    (hfuel : (renderText st.ascii name).length + (st.colon.length + cs.length) ≤ fuel)
    {rest : List Char} (hrest : EndsNumber rest) :
    readField fuel (renderText st.ascii name ++ (st.colon ++ (cs ++ rest)))
      = some ((.str name, v), rest) := by
  obtain ⟨inside, hquote, hinside⟩ :=
    readText_renderText st.ascii name (st.colon ++ (cs ++ rest))
  obtain ⟨space, hcolon, hspace⟩ := hst.colon
  simp only [hquote, hcolon, List.length_cons] at hfuel
  obtain ⟨fuel, rfl⟩ : ∃ k, fuel = k + 1 := ⟨fuel - 1, by omega⟩
  have hvalue := hcs.readValue_skipSpace hrest hspace fuel (by omega)
  -- after the name stands the colon, perhaps with a blank behind it
  have hmark : skipSpace (st.colon ++ (cs ++ rest)) = ':' :: (space ++ (cs ++ rest)) := by
    rw [hcolon]
    exact skipSpace_append (List.forall_mem_nil _) (by decide) _
  rw [hquote, List.cons_append, readField, if_pos rfl, hinside]
  simp only [hmark, hvalue, Option.map_some, String.ofList_toList]

/-- What is behind the first field of a mapping is read up to the closing brace. -/
theorem readFields_renderEntries {fields : List (String × Value)}
    (hfields : ∀ e ∈ fields, Written st e.2) (depth : Nat) :
    ∃ cs, renderEntries st depth (Entries.ofFields fields) = some cs
      ∧ (cs = [] ∨ ∃ tail, cs = ',' :: tail)
      ∧ ∀ fuel blanks rest, cs.length < fuel → (∀ c ∈ blanks, isSpace c = true) →
        readFields fuel (skipSpace (cs ++ (blanks ++ '\x7d' :: rest)))
          = some (Entries.ofFields fields, rest) := by
  induction fields with
  | nil =>
      refine ⟨[], rfl, Or.inl rfl, fun fuel blanks rest hfuel hblanks => ?_⟩
      obtain ⟨fuel, rfl⟩ : ∃ k, fuel = k + 1 := ⟨fuel - 1, by omega⟩
      rw [List.nil_append, skipSpace_append hblanks (by decide), readFields, if_pos rfl]
      rfl
  | cons e fields ih =>
      obtain ⟨name, v⟩ := e
      obtain ⟨first, hfirst, hreads⟩ := hfields (name, v) List.mem_cons_self depth
      obtain ⟨others, hothers, hstart, hread⟩ :=
        ih fun e he => hfields e (List.mem_cons_of_mem _ he)
      -- as for the items of a list, with a name and a colon in front of each value
      obtain ⟨space, hcomma, hspace⟩ := hst.comma
      have hline : ∀ c ∈ space ++ st.line depth, isSpace c = true := fun c hc =>
        (List.mem_append.mp hc).elim (hspace c) (st.isSpace_line depth c)
      refine ⟨',' :: (space ++ st.line depth
        ++ (renderText st.ascii name ++ (st.colon ++ (first ++ others)))), ?_,
        Or.inr ⟨_, rfl⟩, ?_⟩
      · show renderEntries st depth ((.str name, v) :: Entries.ofFields fields) = _
        rw [renderEntries, hfirst, hothers, hcomma]
        simp only [keyText?, List.cons_append, List.append_assoc]
      · intro fuel blanks rest hfuel hblanks
        obtain ⟨fuel, rfl⟩ : ∃ k, fuel = k + 1 := ⟨fuel - 1, by omega⟩
        simp only [List.length_cons, List.length_append] at hfuel
        have hfield := readField_text hst hreads name fuel (by omega)
          (endsNumber_close hstart hblanks (Or.inr rfl) rest)
        have hskip := skipSpace_renderText hline st.ascii name
          (st.colon ++ (first ++ (others ++ (blanks ++ '\x7d' :: rest))))
        have hmore := hread fuel blanks rest (by omega) hblanks
        simp only [List.cons_append, List.append_assoc] at hskip ⊢
        rw [← List.nil_append (',' :: _), skipSpace_append (by simp) (by decide), readFields,
          if_neg (by decide), if_pos rfl, hskip, hfield]
        simp only [hmore, Option.map_some]
        rfl

/-! ## Lists and mappings -/

/-- A list is written if its items are. -/
theorem written_list {items : List Value} (hitems : ∀ v ∈ items, Written st v) :
    Written st (.list items) := by
  intro depth
  cases items with
  | nil =>
      refine ⟨['[', ']'], by rw [render], fun fuel rest hfuel _ => ?_⟩
      obtain ⟨fuel, rfl⟩ : ∃ k, fuel = k + 1 := ⟨fuel - 1, by simp at hfuel; omega⟩
      rfl
  | cons v items =>
      obtain ⟨first, hfirst, hreads⟩ := hitems v List.mem_cons_self (depth + 1)
      obtain ⟨others, hothers, hstart, hread⟩ := readItems_renderItems hst
        (fun w hw => hitems w (List.mem_cons_of_mem v hw)) (depth + 1)
      refine ⟨'[' :: (st.line (depth + 1) ++ (first ++ (others ++ (st.line depth ++ [']'])))), ?_,
        fun fuel rest hfuel _ => ?_⟩
      · rw [render, hfirst, hothers]
        simp only [List.append_assoc]
      · obtain ⟨fuel, rfl⟩ : ∃ k, fuel = k + 1 := ⟨fuel - 1, by simp at hfuel; omega⟩
        simp only [List.length_cons, List.length_append, List.length_nil] at hfuel
        have hends : EndsNumber (others ++ (st.line depth ++ ']' :: rest)) :=
          endsNumber_close hstart (st.isSpace_line depth) (Or.inl rfl) rest
        -- the first item does not begin with the closing bracket, so the list is not taken for an
        -- empty one
        obtain ⟨c, tail, heq, -, hbracket⟩ := hreads.start hends
        have hskip := hreads.skipSpace_append hends (st.isSpace_line (depth + 1))
        have hvalue := hreads fuel (others ++ (st.line depth ++ ']' :: rest)) (by omega) hends
        have hmore := hread fuel (st.line depth) rest (by omega) (st.isSpace_line depth)
        simp only [List.cons_append, List.append_assoc, List.nil_append]
        rw [readValue, if_neg (by decide), if_pos rfl, hskip]
        split
        · next hclose =>
            rw [heq] at hclose
            exact absurd (List.cons.inj hclose).1 hbracket
        · simp only [hvalue, hmore, Option.map_some]

/-- A mapping is written if its values are and no key is there twice: filling the mapping again
keeps each entry in its place. -/
theorem written_map {fields : List (String × Value)}
    (hdistinct : (fields.map Prod.fst).Nodup) (hfields : ∀ e ∈ fields, Written st e.2) :
    Written st (.map (Entries.ofFields fields)) := by
  intro depth
  cases fields with
  | nil =>
      refine ⟨['\x7b', '\x7d'], rfl, fun fuel rest hfuel _ => ?_⟩
      obtain ⟨fuel, rfl⟩ : ∃ k, fuel = k + 1 := ⟨fuel - 1, by simp at hfuel; omega⟩
      rfl
  | cons e fields =>
      obtain ⟨name, v⟩ := e
      obtain ⟨first, hfirst, hreads⟩ := hfields (name, v) List.mem_cons_self (depth + 1)
      obtain ⟨others, hothers, hstart, hread⟩ := readFields_renderEntries hst
        (fun e he => hfields e (List.mem_cons_of_mem _ he)) (depth + 1)
      refine ⟨'\x7b' :: (st.line (depth + 1) ++ (renderText st.ascii name
        ++ (st.colon ++ (first ++ (others ++ (st.line depth ++ ['\x7d'])))))), ?_,
        fun fuel rest hfuel _ => ?_⟩
      · show render st depth (.map ((.str name, v) :: Entries.ofFields fields)) = _
        rw [render, hfirst, hothers]
        simp only [keyText?, List.append_assoc]
      · obtain ⟨fuel, rfl⟩ : ∃ k, fuel = k + 1 := ⟨fuel - 1, by simp at hfuel; omega⟩
        simp only [List.length_cons, List.length_append, List.length_nil] at hfuel
        have hfield := readField_text hst hreads name fuel (by omega)
          (endsNumber_close hstart (st.isSpace_line depth) (Or.inr rfl) rest)
        have hskip := skipSpace_renderText (st.isSpace_line (depth + 1)) st.ascii name
          (st.colon ++ (first ++ (others ++ (st.line depth ++ '\x7d' :: rest))))
        have hmore := hread fuel (st.line depth) rest (by omega) (st.isSpace_line depth)
        -- the names are distinct, so that no field replaces another
        have hfilled : Entries.ofPairs ((.str name, v) :: Entries.ofFields fields)
            = Entries.ofFields ((name, v) :: fields) := by
          have hentries := Entries.ofPairs_ofFields ((name, v) :: fields)
          rw [Named.entries_ofList hdistinct] at hentries
          exact hentries
        simp only [List.cons_append, List.append_assoc, List.nil_append]
        rw [readValue, if_neg (by decide), if_neg (by decide), if_pos rfl, hskip]
        split
        · next hclose =>
            have hbrace : '"' = '\x7d' := (List.cons.inj hclose).1
            cases hbrace
        · simp only [hfield, hmore, Option.map_some, hfilled]

/-! ## Documents -/

/-- Every document whose floats read back is written. Induction on the document. Numbers, words and
texts are read by their own lemmas; lists and mappings by the two before this one. -/
theorem written {v : Value} (hv : IsDocument v) (hfloats : ∀ x ∈ v.floats, ReadsBack x) :
    Written st v := by
  induction hv with
  | null =>
      refine fun depth => ⟨"null".toList, by rw [render], fun fuel rest hfuel _ => ?_⟩
      obtain ⟨fuel, rfl⟩ : ∃ k, fuel = k + 1 := ⟨fuel - 1, by simp at hfuel; omega⟩
      rfl
  | bool b =>
      refine fun depth => ⟨_, by rw [render], fun fuel rest hfuel _ => ?_⟩
      obtain ⟨fuel, rfl⟩ : ∃ k, fuel = k + 1 := ⟨fuel - 1, by cases b <;> simp at hfuel <;> omega⟩
      cases b <;> rfl
  | int n hn =>
      refine fun depth => ⟨_, by rw [render], fun fuel rest hfuel hrest => ?_⟩
      -- one step of fuel is there, since every text has a character
      have hpos : 0 < (toString n).toList.length := by
        have hdigits := List.length_pos_of_ne_nil
          (Nat.toDigits_ne_nil (n := n.natAbs) (b := 10))
        rw [toList_toString_int, List.length_append]
        omega
      exact readValue_int hn (by omega) hrest
  | float x =>
      have hx : ReadsBack x := hfloats x List.mem_cons_self
      refine fun depth => ⟨_, by rw [render], fun fuel rest hfuel hrest => ?_⟩
      have hpos : 0 < (floatFormat.text x).toList.length := by
        obtain ⟨c, tail, hcs, -⟩ := start_of_readValue hx
        rw [hcs]
        exact Nat.zero_lt_succ _
      exact readValue_float hx (by omega) hrest
  | str s =>
      refine fun depth => ⟨_, by rw [render], fun fuel rest hfuel _ => ?_⟩
      obtain ⟨inside, hquote, hinside⟩ := readText_renderText st.ascii s rest
      rw [hquote] at hfuel ⊢
      obtain ⟨fuel, rfl⟩ : ∃ k, fuel = k + 1 := ⟨fuel - 1, by simp at hfuel; omega⟩
      rw [List.cons_append, readValue, if_pos rfl, hinside]
      simp only [Option.map_some, String.ofList_toList]
  | list items _ ih =>
      exact written_list hst fun v hv =>
        ih v hv fun x hx => hfloats x (Value.mem_floatsOfItems.mpr ⟨v, hv, hx⟩)
  | map fields hdistinct _ ih =>
      refine written_map hst hdistinct fun e he => ih e he fun x hx => hfloats x ?_
      exact Value.mem_floatsOfEntries.mpr ⟨(.str e.1, e.2), List.mem_map_of_mem he, hx⟩

/-- The text of a document is read as the document. -/
theorem parse?_print? {v : Value} (hv : IsDocument v) (hfloats : ∀ x ∈ v.floats, ReadsBack x) :
    ∃ text, print? st v = some text ∧ parse? text = some v := by
  obtain ⟨cs, hcs, hreads⟩ := written hst hv hfloats 0
  refine ⟨String.ofList cs, by rw [print?, hcs]; rfl, ?_⟩
  have hskip := hreads.skipSpace_append endsNumber_nil (List.forall_mem_nil _)
  have hvalue := hreads (2 * cs.length + 2) [] (by omega) endsNumber_nil
  rw [List.nil_append, List.append_nil] at hskip
  rw [List.append_nil] at hvalue
  unfold parse?
  simp only [String.toList_ofList, hskip, hvalue]
  rfl

/-- Different documents have different texts. -/
theorem print?_injective {v w : Value} (hv : IsDocument v) (hw : IsDocument w)
    (hvfloats : ∀ x ∈ v.floats, ReadsBack x) (hwfloats : ∀ x ∈ w.floats, ReadsBack x)
    (heq : print? st v = print? st w) : v = w := by
  obtain ⟨text, htext, hread⟩ := parse?_print? hst hv hvfloats
  obtain ⟨other, hother, hreadOther⟩ := parse?_print? hst hw hwfloats
  rw [htext, hother] at heq
  rw [Option.some.inj heq, hreadOther] at hread
  exact (Option.some.inj hread).symm

end Parts

end Rostering.Json
