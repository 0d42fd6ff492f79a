import Mathlib
import Rostering.Proofs.Json.Number
import Rostering.Proofs.Named
import Rostering.Proofs.Value.Text

/-!
# Documents

The values that JSON text stands for: of all the kinds of values those without dates, pairs, sets
and the like, with mappings whose keys are distinct texts.

## The architecture

* **`Json.IsDocument`** — one case for each kind of value.
* **`Entries.ofPairs_ofFields`** — filling a mapping under text keys is filling a container under
  names, so distinct keys keep their entries as they are and repeated ones leave distinct keys.
* **`readsDocuments`** — what the four readers give are documents or parts of them, by induction
  on the fuel; `parse?_isDocument` says so of a whole text.
* **`Value.floats`** — the floats inside of a value, for statements that hold up to how they are
  written.
-/

namespace Rostering

/-! ## Mappings under text keys -/

namespace Entries

theorem put_ofFields (name : String) (v : Value) (l : List (String × Value)) :
    put (.str name) v (ofFields l) = ofFields (insertEntry name v l) := by
  induction l with
  | nil => rfl
  | cons e l ih =>
      obtain ⟨key, w⟩ := e
      have hsame : (Value.str key).same (.str name) = (key == name) := by simp [Value.same]
      show (if (Value.str key).same (.str name) then (Value.str key, v) :: ofFields l
        else (Value.str key, w) :: put (.str name) v (ofFields l)) = _
      rw [hsame, ih, insertEntry]
      by_cases hkey : key = name
      · subst hkey
        simp [ofFields]
      · simp [ofFields, hkey]

theorem ofFields_injective : Function.Injective ofFields := by
  refine List.map_injective_iff.mpr ?_
  rintro ⟨k, v⟩ ⟨l, w⟩ heq
  cases heq
  rfl

/-- Entries under text keys are filled in as they would be under names. -/
theorem ofPairs_ofFields (l : List (String × Value)) :
    ofPairs (ofFields l) = ofFields (Named.ofList l).entries := by
  have hfold : ∀ (l : List (String × Value)) (m : Named Value),
      (ofFields l).foldl (fun es e => put e.1 e.2 es) (ofFields m.entries)
        = ofFields (l.foldl (fun m e => m.insert e.1 e.2) m).entries := by
    intro l
    induction l with
    | nil => exact fun m => rfl
    | cons e l ih =>
        intro m
        show (ofFields l).foldl _ (put (.str e.1) e.2 (ofFields m.entries)) = _
        rw [put_ofFields]
        exact ih (m.insert e.1 e.2)
  exact hfold l .empty

end Entries

/-! ## Floats -/

mutual

/-- The floats inside of a value, in their order. -/
def Value.floats : Value → List Float
  | .float x => [x]
  | .list xs | .tuple xs | .set xs => Value.floatsOfItems xs
  | .map es => Value.floatsOfEntries es
  | _ => []

/-- The floats inside of the items of a list. -/
def Value.floatsOfItems : List Value → List Float
  | [] => []
  | v :: vs => v.floats ++ Value.floatsOfItems vs

/-- The floats inside of the values of a mapping. Keys of documents are texts and hold none. -/
def Value.floatsOfEntries : List (Value × Value) → List Float
  | [] => []
  | (_, v) :: es => v.floats ++ Value.floatsOfEntries es

end

theorem Value.mem_floatsOfItems {vs : List Value} {x : Float} :
    x ∈ floatsOfItems vs ↔ ∃ v ∈ vs, x ∈ v.floats := by
  induction vs with
  | nil => simp [floatsOfItems]
  | cons v vs ih => simp [floatsOfItems, ih]

theorem Value.mem_floatsOfEntries {es : Entries} {x : Float} :
    x ∈ floatsOfEntries es ↔ ∃ e ∈ es, x ∈ e.2.floats := by
  induction es with
  | nil => simp [floatsOfEntries]
  | cons e es ih =>
      obtain ⟨k, v⟩ := e
      simp [floatsOfEntries, ih]

namespace Json

/-! ## Documents -/

/-- A value that JSON text can stand for. Integers have as many digits as may be read. -/
inductive IsDocument : Value → Prop where
  | null : IsDocument .null
  | bool (b : Bool) : IsDocument (.bool b)
  | int (n : Int) (hn : (Nat.toDigits 10 n.natAbs).length ≤ maxIntegerDigits) : IsDocument (.int n)
  | float (x : Float) : IsDocument (.float x)
  | str (s : String) : IsDocument (.str s)
  | list (items : List Value) (hitems : ∀ v ∈ items, IsDocument v) : IsDocument (.list items)
  | map (fields : List (String × Value)) (hdistinct : (fields.map Prod.fst).Nodup)
      (hfields : ∀ e ∈ fields, IsDocument e.2) : IsDocument (.map (Entries.ofFields fields))

/-- Fields under text keys make a document exactly if no key is there twice and all values are
documents. -/
theorem isDocument_ofFields_iff {fields : List (String × Value)} :
    IsDocument (Value.ofFields fields)
      ↔ (fields.map Prod.fst).Nodup ∧ ∀ e ∈ fields, IsDocument e.2 := by
  constructor
  · intro h
    generalize hv : Value.ofFields fields = v at h
    cases h with
    | map others hdistinct hothers =>
        rw [Entries.ofFields_injective (Value.map.inj hv)]
        exact ⟨hdistinct, hothers⟩
    | _ => cases hv
  · exact fun h => .map fields h.1 h.2

/-- Fields, of which the last counts among those of one name, make a document. -/
theorem IsDocument.ofPairs {fields : List (String × Value)}
    (hfields : ∀ e ∈ fields, IsDocument e.2) :
    IsDocument (.map (Entries.ofPairs (Entries.ofFields fields))) := by
  rw [Entries.ofPairs_ofFields]
  exact .map _ (Named.ofList fields).distinct fun e he => hfields e (Named.mem_ofList he)

/-- The texts of a list, as values, are a document. -/
theorem isDocument_ofTexts (l : List String) : IsDocument (Value.ofTexts l) := by
  refine .list _ fun v hv => ?_
  obtain ⟨s, -, rfl⟩ := List.mem_map.mp hv
  exact .str s

/-- Nothing in a document is part of itself. So it can be written, which is what a key of the memo
needs. -/
theorem IsDocument.isEndless_eq_false {v : Value} (hv : IsDocument v) : v.isEndless = false := by
  induction hv with
  | null | bool | int | float | str => rfl
  | list items _ ih =>
      -- the items of a list, one after the other; values and lists of values are looked at by
      -- separate functions
      have hall : ∀ vs : List Value, (∀ v ∈ vs, v.isEndless = false) →
          Value.areEndless vs = false := by
        intro vs
        induction vs with
        | nil => exact fun _ => rfl
        | cons v vs ihvs =>
            intro h
            rw [Value.areEndless, h v List.mem_cons_self,
              ihvs fun w hw => h w (List.mem_cons_of_mem v hw)]
            rfl
      exact hall items ih
  | map fields _ _ ih =>
      have hall : ∀ l : List (String × Value), (∀ e ∈ l, e.2.isEndless = false) →
          Value.haveEndless (Entries.ofFields l) = false := by
        intro l
        induction l with
        | nil => exact fun _ => rfl
        | cons e l ihl =>
            intro h
            show (e.2.isEndless || Value.haveEndless (Entries.ofFields l)) = false
            rw [h e List.mem_cons_self, ihl fun d hd => h d (List.mem_cons_of_mem e hd)]
            rfl
      exact hall fields ih

/-- A document can be written: its numbers have no more digits than may be read. -/
theorem IsDocument.hasText {v : Value} (hv : IsDocument v) : v.hasText = true := by
  induction hv with
  | null | bool | float | str => simp [Value.hasText]
  | int n hn =>
      rw [Value.hasText_int, decide_eq_true_eq, integerLimit, tenTo, Nat.pow_eq]
      exact (Nat.length_toDigits_le_iff (by decide) (by decide)).mp hn
  | list items _ ih => rw [Value.hasText_list, Value.haveText_iff.mpr ih]
  | map fields _ _ ih =>
      rw [Value.hasText_map, Value.entriesHaveText_iff]
      refine List.forall_mem_map.mpr fun e he => ?_
      exact ⟨Value.hasText_str e.1, ih e he⟩

/-! ## Reading -/

/-- Digits stand for less than the power of ten with as many zeros. Induction from the last digit
on. -/
theorem digitsValue_lt {cs : List Char} (hcs : ∀ c ∈ cs, c.isDigit = true) :
    digitsValue cs < 10 ^ cs.length := by
  induction cs using List.reverseRecOn with
  | nil => decide
  | append_singleton cs c ih =>
      have hrest := ih fun d hd => hcs d (List.mem_append_left _ hd)
      have hdigit := hcs c (List.mem_append_right _ List.mem_cons_self)
      have hc : c.toNat - '0'.toNat < 10 := by
        simp only [Char.isDigit, ge_iff_le, Bool.and_eq_true, decide_eq_true_eq,
          UInt32.le_iff_toNat_le] at hdigit
        have hval : c.toNat = c.val.toNat := rfl
        have hzero : '0'.toNat = 48 := rfl
        have hnine : '9'.val.toNat = 57 := rfl
        omega
      -- the last digit counts once, all before it ten times
      have hvalue : digitsValue (cs ++ [c]) = 10 * digitsValue cs + (c.toNat - '0'.toNat) := by
        unfold digitsValue
        rw [List.foldl_append]
        rfl
      rw [hvalue, List.length_append, List.length_singleton, Nat.pow_succ]
      omega

theorem isDigit_of_readWhole {cs whole rest : List Char}
    (hread : readWhole cs = some (whole, rest)) : ∀ c ∈ whole, c.isDigit = true := by
  by_cases hzero : ∃ tail, cs = '0' :: tail
  · obtain ⟨tail, rfl⟩ := hzero
    obtain ⟨rfl, -⟩ := Prod.mk.inj (Option.some.inj hread)
    simp
  · rw [readWhole_of_ne (not_exists.mp hzero)] at hread
    split at hread
    · cases hread
    · obtain ⟨rfl, -⟩ := Prod.mk.inj (Option.some.inj hread)
      exact fun c hc => List.mem_takeWhile_imp hc

/-- A number that is read is a document. Too many digits are refused by the reader, so that the
number has as few as a document may have. -/
theorem readNumber_isDocument {negative : Bool} {cs rest : List Char} {v : Value}
    (hread : readNumber negative cs = some (v, rest)) : IsDocument v := by
  unfold readNumber at hread
  obtain ⟨⟨whole, tail⟩, hwhole, hread⟩ := Option.bind_eq_some_iff.mp hread
  simp only at hread
  split at hread
  · split at hread
    · cases hread
    · next hlength =>
        cases hread
        -- the value is bounded by the count of the digits, and its own digits by its value
        have hvalue := digitsValue_lt (isDigit_of_readWhole hwhole)
        have hbound : digitsValue whole < 10 ^ maxIntegerDigits :=
          hvalue.trans_le (Nat.pow_le_pow_right (by decide) (Nat.not_lt.mp hlength))
        refine .int _ ?_
        have habs : (if negative = true then -Int.ofNat (digitsValue whole)
            else Int.ofNat (digitsValue whole)).natAbs = digitsValue whole := by
          split <;> simp
        rw [habs]
        exact (Nat.length_toDigits_le_iff (by decide) (by decide)).mpr hbound
  · cases hread
    exact .float _

theorem readWord_isDocument {cs rest : List Char} {v : Value}
    (hread : readWord cs = some (v, rest)) : IsDocument v := by
  unfold readWord at hread
  simp only [Option.orElse_eq_orElse, Option.orElse_eq_or, Option.or_eq_some_iff,
    Option.map_eq_some_iff, Prod.mk.injEq] at hread
  obtain ⟨_, _, rfl, _⟩ | ⟨-, ⟨_, _, rfl, _⟩ | ⟨-, ⟨_, _, rfl, _⟩ | ⟨-, ⟨_, _, rfl, _⟩
    | ⟨-, ⟨_, _, rfl, _⟩ | ⟨-, ⟨_, _, rfl, _⟩⟩⟩⟩⟩⟩ := hread
  · exact .null
  · exact .bool true
  · exact .bool false
  all_goals exact .float _

/-- What the readers give with some fuel are documents and parts of them. -/
structure ReadsDocuments (fuel : Nat) : Prop where
  value : ∀ {cs rest v}, readValue fuel cs = some (v, rest) → IsDocument v
  items : ∀ {cs rest vs}, readItems fuel cs = some (vs, rest) → ∀ v ∈ vs, IsDocument v
  field : ∀ {cs rest e}, readField fuel cs = some (e, rest) →
    ∃ name v, e = (.str name, v) ∧ IsDocument v
  fields : ∀ {cs rest es}, readFields fuel cs = some (es, rest) →
    ∃ l, es = Entries.ofFields l ∧ ∀ e ∈ l, IsDocument e.2

namespace ReadsDocuments

theorem zero : ReadsDocuments 0 where
  value h := by simp [readValue] at h
  items h := by simp [readItems] at h
  field h := by simp [readField] at h
  fields h := by simp [readFields] at h

variable {fuel : Nat} (ih : ReadsDocuments fuel)
include ih

theorem value_succ {cs rest : List Char} {v : Value}
    (hread : readValue (fuel + 1) cs = some (v, rest)) : IsDocument v := by
  cases cs with
  | nil => simp [readValue] at hread
  | cons c cs =>
      rw [readValue] at hread
      split at hread
      · -- a text
        obtain ⟨_, _, heq⟩ := Option.map_eq_some_iff.mp hread
        cases heq
        exact .str _
      split at hread
      · -- a list
        split at hread
        · cases hread
          exact .list [] (by simp)
        · split at hread
          · cases hread
          · next hfirst =>
              obtain ⟨_, hitems, heq⟩ := Option.map_eq_some_iff.mp hread
              cases heq
              exact .list _ (List.forall_mem_cons.mpr ⟨ih.value hfirst, ih.items hitems⟩)
      split at hread
      · -- a mapping
        split at hread
        · cases hread
          exact .map [] (by simp) (by simp)
        · split at hread
          · cases hread
          · next hfirst =>
              obtain ⟨_, hfields, heq⟩ := Option.map_eq_some_iff.mp hread
              cases heq
              obtain ⟨name, w, rfl, hw⟩ := ih.field hfirst
              obtain ⟨l, hl, hdocuments⟩ := ih.fields hfields
              rw [hl]
              show IsDocument (.map (Entries.ofPairs (Entries.ofFields ((name, w) :: l))))
              exact .ofPairs (List.forall_mem_cons.mpr ⟨hw, hdocuments⟩)
      split at hread
      · exact readNumber_isDocument hread
      split at hread
      · next hword =>
          rw [hread] at hword
          exact readWord_isDocument hword
      · split at hread
        · exact readNumber_isDocument hread
        · cases hread

/-- What is read of the rest of a list are documents, if less fuel gives documents. -/
theorem items_succ {cs rest : List Char} {vs : List Value}
    (hread : readItems (fuel + 1) cs = some (vs, rest)) : ∀ v ∈ vs, IsDocument v := by
  cases cs with
  | nil => simp [readItems] at hread
  | cons c cs =>
      rw [readItems] at hread
      -- the list is closed, or goes on with a comma and a value, or is no list
      split at hread
      · cases hread
        simp
      split at hread
      · split at hread
        · cases hread
        · next hfirst =>
            obtain ⟨_, hitems, heq⟩ := Option.map_eq_some_iff.mp hread
            cases heq
            exact List.forall_mem_cons.mpr ⟨ih.value hfirst, ih.items hitems⟩
      · cases hread

/-- A field that is read has a text for a key and a document for its value. -/
theorem field_succ {cs rest : List Char} {e : Value × Value}
    (hread : readField (fuel + 1) cs = some (e, rest)) :
    ∃ name v, e = (.str name, v) ∧ IsDocument v := by
  cases cs with
  | nil => simp [readField] at hread
  | cons c cs =>
      rw [readField] at hread
      split at hread
      · split at hread
        · cases hread
        · split at hread
          · obtain ⟨_, hvalue, heq⟩ := Option.map_eq_some_iff.mp hread
            cases heq
            exact ⟨_, _, rfl, ih.value hvalue⟩
          · cases hread
      · cases hread

/-- What is read of the rest of a mapping are fields, still in the order of the text and possibly
with keys that are there twice. -/
theorem fields_succ {cs rest : List Char} {es : Entries}
    (hread : readFields (fuel + 1) cs = some (es, rest)) :
    ∃ l, es = Entries.ofFields l ∧ ∀ e ∈ l, IsDocument e.2 := by
  cases cs with
  | nil => simp [readFields] at hread
  | cons c cs =>
      rw [readFields] at hread
      split at hread
      · cases hread
        exact ⟨[], rfl, by simp⟩
      split at hread
      · split at hread
        · cases hread
        · next hfirst =>
            obtain ⟨_, hfields, heq⟩ := Option.map_eq_some_iff.mp hread
            cases heq
            obtain ⟨name, v, rfl, hv⟩ := ih.field hfirst
            obtain ⟨l, hl, hdocuments⟩ := ih.fields hfields
            refine ⟨(name, v) :: l, ?_, List.forall_mem_cons.mpr ⟨hv, hdocuments⟩⟩
            rw [hl]
            rfl
      · cases hread

end ReadsDocuments

theorem readsDocuments (fuel : Nat) : ReadsDocuments fuel := by
  induction fuel with
  | zero => exact .zero
  | succ fuel ih => exact ⟨ih.value_succ, ih.items_succ, ih.field_succ, ih.fields_succ⟩

/-- A text stands for a document. -/
theorem parse?_isDocument {text : String} {v : Value} (hv : parse? text = some v) :
    IsDocument v := by
  unfold parse? at hv
  simp only at hv
  split at hv
  · next hread =>
      split at hv
      · cases hv
        exact (readsDocuments _).value hread
      · cases hv
  · cases hv

end Json

end Rostering
