import Rostering.Proofs.KeyPath.Descent
import Rostering.Proofs.Loader.Memo

/-!
# Reading a document along a key path

Reading a decoded document along a key path gives what the descent ends with (`Loader.read_json`), so
that reading along a longer path goes on where the shorter one has led, and fails where it has failed
(`Loader.read_along_path`). A step that looks like a number and is none ends the descent with a fault;
so does one with more digits than are read (`Loader.read_of_many_digits`).

## The architecture

* **`World.Decodes`** — a text that the stack bears to read, and the document that it stands for.
* **`Loader.Reports`** — what the loader makes of the end of a descent: the value, or a failure that
  names the source and the steps up to the one that is missing.
* **`Loader.read_json`** — the two together, for any file that holds a document.
-/

namespace Rostering

variable {σ : Type}

/-- The text is decoded: it stands for the document, and the stack bears reading it. -/
structure World.Decodes (w : World σ) (text : String) (doc : Value) : Prop where
  borne : w.stack.reads text = true
  parsed : Json.parse? text = some doc

namespace Loader

/-! ## Reading a document along a path -/

/-- The failure to find a node along steps: the first of them, up to where nothing is denoted. -/
def missing (path : String) (steps walked : List String) : Failure :=
  .source ⟨.keyPathMissing path walked, some (Source.json path steps).label⟩

theorem missing_injective {path : String} {steps walked walked' : List String}
    (h : missing path steps walked = missing path steps walked') : walked = walked' := by
  unfold missing at h
  injections

/-- A result of reading is how a descent has ended: with the same node, with no node on both sides, or
with the same fault. -/
inductive Reports : Except Failure Value → Except KeyPath.Stop Value → Prop
  | node (v : Value) : Reports (.ok v) (.ok v)
  | missing {e : SourceError} {tried : Nat} (hkind : e.fault.kind = .keyPathMissing) :
      Reports (.error (.source e)) (.error (.missing tried))
  | fault (f : Fault) : Reports (.error (.fault f)) (.error (.fault f))

theorem Reports.eq_ok {result : Except Failure Value} {v : Value} (h : Reports result (.ok v)) :
    result = .ok v := by
  cases h
  rfl

section

variable {l : Loader σ} {w : World σ} {path text : String} {doc : Value}
  (hfile : l.content? w.files path = .ok (some text)) (hdoc : w.Decodes text doc)
include hfile hdoc

/-- Reading a document along steps gives what the descent ends with. -/
theorem read_json (steps : List String) :
    (l.read w (.json path steps)).1 = (KeyPath.descend steps doc).mapError fun
      | .missing tried => missing path steps (steps.take tried)
      | .fault f => .fault f := by
  show l.readJson w (.json path steps) path steps = _
  unfold readJson
  rw [hfile]
  simp only [Except.mapError, bind, Except.bind, hdoc.borne, hdoc.parsed]
  cases KeyPath.descend steps doc with
  | ok v => rfl
  | error stop =>
      cases stop with
      | missing tried => rfl
      | fault f => rfl

theorem reports_read (steps : List String) :
    Reports (l.read w (.json path steps)).1 (KeyPath.descend steps doc) := by
  rw [read_json hfile hdoc]
  cases KeyPath.descend steps doc with
  | ok v => exact .node v
  | error stop =>
      cases stop with
      | missing tried => exact .missing rfl
      | fault f => exact .fault f

/-- Failing to find a node is how a descent has ended, at one of the steps. -/
theorem read_eq_missing {p walked : List String} :
    (l.read w (.json path p)).1 = .error (missing path p walked)
      ↔ ∃ n, KeyPath.descend p doc = .error (.missing n) ∧ p.take n = walked := by
  rw [read_json hfile hdoc, mapError_eq_error]
  constructor
  · rintro ⟨stop, hstop, h⟩
    cases stop with
    | missing n => exact ⟨n, hstop, missing_injective h⟩
    | fault f => cases h
  · rintro ⟨n, hn, rfl⟩
    exact ⟨_, hn, rfl⟩

theorem read_eq_fault {p : List String} {f : Fault} :
    (l.read w (.json path p)).1 = .error (.fault f)
      ↔ KeyPath.descend p doc = .error (.fault f) := by
  rw [read_json hfile hdoc, mapError_eq_error]
  constructor
  · rintro ⟨stop, hstop, h⟩
    cases stop with
    | missing n => cases h
    | fault f => exact Failure.fault.inj h ▸ hstop
  · exact fun h => ⟨_, h, rfl⟩

section

variable {p : List String} (hp : KeyPath.IsAscii p)
include hp

/-- The failure names the shortest part of the path that leads nowhere, if no numeral on the way is
unreadable. -/
theorem read_eq_missing_iff {walked : List String} :
    (l.read w (.json path p)).1 = .error (missing path p walked)
      ↔ KeyPath.IsFirstMiss p doc walked ∧ ¬KeyPath.Breaks p doc := by
  rw [read_eq_missing hfile hdoc]
  constructor
  · rintro ⟨n, hn, rfl⟩
    obtain ⟨hmiss, -, hwhole⟩ := KeyPath.isFirstMiss_of_descend hp hn
    exact ⟨hmiss, hwhole⟩
  · rintro ⟨hmiss, hwhole⟩
    exact ⟨_, KeyPath.descend_of_isFirstMiss hp hmiss hwhole,
      (List.prefix_iff_eq_take.mp hmiss.within).symm⟩

theorem read_eq_fault_iff {f : Fault} :
    (l.read w (.json path p)).1 = .error (.fault f) ↔ f = .malformed ∧ KeyPath.Breaks p doc :=
  (read_eq_fault hfile hdoc).trans (KeyPath.descend_eq_fault hp)

theorem breaks_or_missing {e : Failure} (h : (l.read w (.json path p)).1 = .error e) :
    e = .fault .malformed ∨ ∃ walked, e = missing path p walked := by
  rw [read_json hfile hdoc, mapError_eq_error] at h
  obtain ⟨stop, hstop, rfl⟩ := h
  cases stop with
  | missing n => exact Or.inr ⟨_, rfl⟩
  | fault f =>
      rw [((KeyPath.descend_eq_fault hp).mp hstop).1]
      exact Or.inl rfl

/-- Reading goes on from the node that a path leads to. -/
theorem reports_append {v : Value} (hv : KeyPath.Leads p doc v) (q : List String) :
    Reports (l.read w (.json path (p ++ q))).1 (KeyPath.descend q v) := by
  have hreports := @reports_read _ l w path text doc hfile hdoc (p ++ q)
  rw [KeyPath.descend_append hp hv, KeyPath.descendFrom_eq] at hreports
  -- only the number of steps that were tried before is different
  generalize KeyPath.descend q v = ending at hreports
  cases ending with
  | ok x => exact hreports
  | error stop =>
      cases stop with
      | fault f => exact hreports
      | missing n =>
          generalize (l.read w (.json path (p ++ q))).1 = result at hreports ⊢
          cases hreports with
          | missing hkind => exact .missing hkind

/-- Where no node was found, none is found by going on, and the message is the same. -/
theorem read_append_of_missing {walked : List String}
    (h : (l.read w (.json path p)).1 = .error (missing path p walked)) (q : List String) :
    ∃ e, (l.read w (.json path (p ++ q))).1 = .error (.source e) ∧ e.fault.kind = .keyPathMissing
      ∧ e.fault.text = (missing path p walked).message
      ∧ e.fault.text = "Key path not found in JSON " ++ path ++ ": "
        ++ String.intercalate "." walked := by
  obtain ⟨n, hn, rfl⟩ := (read_eq_missing hfile hdoc).mp h
  have hlength := (KeyPath.isFirstMiss_of_descend hp hn).2.1
  have hlonger : KeyPath.descend (p ++ q) doc = .error (.missing n) :=
    KeyPath.descendFrom_append_of_error q hn
  -- the label of the source is longer, but no part of the message
  refine ⟨⟨.keyPathMissing path (p.take n), some (Source.json path (p ++ q)).label⟩, ?_, rfl, rfl,
    rfl⟩
  exact (read_eq_missing hfile hdoc).mpr ⟨n, hlonger, List.take_append_of_le_length hlength⟩

end

/-- Reading a decoded document along a path of ASCII. The path gives the node to which it leads. If
there is none, the failure names the shortest part of the path that leads nowhere, unless the path
comes to a list with a numeral that is no number, because it has two signs or more or more than 4300
digits; then, and only then, it fails with a bare fault, and there is no other failure. A longer path
goes on from the node: reading it ends as the descent from there does; and where no node was found it
fails with the same message. -/
theorem read_along_path {p : List String} (hp : KeyPath.IsAscii p) :
    let outcome := fun steps => (l.read w (.json path steps)).1
    (∀ v, outcome p = .ok v ↔ KeyPath.Leads p doc v)
      ∧ (∀ walked, outcome p = .error (missing path p walked) ↔
        KeyPath.IsFirstMiss p doc walked ∧ ¬KeyPath.Breaks p doc)
      ∧ (outcome p = .error (.fault .malformed) ↔ KeyPath.Breaks p doc)
      ∧ (∀ e, outcome p = .error e →
        e = .fault .malformed ∨ ∃ walked, e = missing path p walked)
      ∧ ∀ q,
        (∀ v, outcome p = .ok v → Reports (outcome (p ++ q)) (KeyPath.descend q v))
        ∧ ∀ walked, outcome p = .error (missing path p walked) →
          ∃ e, outcome (p ++ q) = .error (.source e) ∧ e.fault.kind = .keyPathMissing
            ∧ e.fault.text = (missing path p walked).message
            ∧ e.fault.text = "Key path not found in JSON " ++ path ++ ": "
              ++ String.intercalate "." walked := by
  intro outcome
  have hnode : ∀ v, outcome p = .ok v ↔ KeyPath.Leads p doc v := by
    intro v
    show (l.read w (.json path p)).1 = .ok v ↔ _
    rw [read_json hfile hdoc, mapError_eq_ok, KeyPath.descend_eq_ok hp]
  refine ⟨hnode, fun walked => read_eq_missing_iff hfile hdoc hp, ?_,
    fun e h => breaks_or_missing hfile hdoc hp h, fun q => ⟨fun v hv => ?_, fun walked h => ?_⟩⟩
  · exact (read_eq_fault_iff hfile hdoc hp).trans (and_iff_right rfl)
  · exact reports_append hfile hdoc hp ((hnode v).mp hv) q
  · exact read_append_of_missing hfile hdoc hp h q

end

/-- The last item of a list, and a field of it. -/
theorem read_along_path_of_last_item :
    let l : Loader Unit := ⟨.empty, .ofText "data", .null, false, .empty⟩
    let text := "\x7b\"a\": [1, \x7b\"b\": 2\x7d]\x7d"
    let w : World Unit := { World.bare () with files := .ofFile "d.json" text }
    let item := Value.ofFields [("b", .int 2)]
    let doc := Value.ofFields [("a", .list [.int 1, item])]
    l.content? w.files "d.json" = .ok (some text) ∧ w.Decodes text doc
      ∧ KeyPath.IsAscii ["a", "-1"]
      ∧ (l.read w (.json "d.json" ["a", "-1"])).1 = .ok item
      ∧ (l.read w (.json "d.json" ["a", "-1", "b"])).1 = .ok (.int 2) := by
  intro l text w item doc
  have hfile : l.content? w.files "d.json" = .ok (some text) :=
    l.content?_ofFile isFileName_json text
  have hparsed : Json.parse? text = some doc := by
    simp only [text, doc, item]
    cbv
  have hdoc : w.Decodes text doc := ⟨rfl, hparsed⟩
  have hascii : KeyPath.IsAscii ["a", "-1"] := by
    unfold KeyPath.IsAscii
    decide
  have hnumeral : KeyPath.IsNumeral "-1" 1 ['1'] := ⟨rfl, by simp, by simp [Char.isDigit]⟩
  have hfew : ['1'].length ≤ maxIntegerDigits := by
    show 1 ≤ maxIntegerDigits
    decide
  have hplace : KeyPath.NamesPlace "-1" (-1) := .fromEnd hnumeral hfew
  -- counted from the end, the last item is the first
  have hlast : KeyPath.Denotes "-1" (.list [.int 1, item]) item :=
    .itemFromEnd hplace (by decide) rfl
  have hfield : Entries.field? (Entries.ofFields [("a", .list [.int 1, item])]) "a"
      = some (.list [.int 1, item]) := by
    rw [Entries.field?_ofFields]
    rfl
  have hleads : KeyPath.Leads ["a", "-1"] doc item := .step (.field hfield) (.step hlast (.here item))
  obtain ⟨hnode, -, -, -, honward⟩ := read_along_path hfile hdoc hascii
  have hitem := (hnode item).mpr hleads
  refine ⟨hfile, hdoc, hascii, hitem, ?_⟩
  -- from the item on there is one more step
  have hdescend : KeyPath.descend ["b"] item = .ok (.int 2) := by
    simp only [item]
    cbv
  have hreports := (honward ["b"]).1 item hitem
  rw [hdescend] at hreports
  exact hreports.eq_ok

/-- A place with one digit too many is no place that is not there: reading fails with a bare fault. -/
theorem read_of_many_digits :
    let l : Loader Unit := ⟨.empty, .ofText "data", .null, false, .empty⟩
    let w : World Unit := { World.bare () with files := .ofFile "d.json" "[7]" }
    let digits := List.replicate 4301 '1'
    KeyPath.IsNumeral (String.ofList digits) 0 digits
      ∧ (l.read w (.json "d.json" [String.ofList digits])).1 = .error (.fault .malformed) := by
  intro l w digits
  have hfile : l.content? w.files "d.json" = .ok (some "[7]") :=
    l.content?_ofFile isFileName_json "[7]"
  have hdoc : w.Decodes "[7]" (.list [.int 7]) := ⟨rfl, rfl⟩
  have hdigit : ∀ c ∈ digits, c = '1' := fun c hc => List.eq_of_mem_replicate hc
  have hnumeral : KeyPath.IsNumeral (String.ofList digits) 0 digits :=
    ⟨by rw [String.toList_ofList]; rfl, List.cons_ne_nil _ _, fun c hc => hdigit c hc ▸ rfl⟩
  have hascii : KeyPath.IsAscii [String.ofList digits] := by
    intro name hname
    rw [List.mem_singleton.mp hname, Access.isAscii, String.toList_ofList, List.all_eq_true]
    exact fun c hc => hdigit c hc ▸ rfl
  -- the numeral is one digit longer than a number may be
  have hmany : maxIntegerDigits < digits.length := by
    rw [List.length_replicate]
    decide
  refine ⟨hnumeral, ?_⟩
  rw [read_json hfile hdoc, KeyPath.descend_of_breaks hascii
    ⟨[], _, [], _, rfl, .here _, .digits hnumeral hmany⟩]
  rfl

end Loader

end Rostering
