import Mathlib
import Rostering.Loader
import Rostering.Proofs.Config.Document
import Rostering.Proofs.Cutting
import Rostering.Proofs.Json.Order
import Rostering.Proofs.Json.RoundTrip
import Rostering.Proofs.Loader.Agreement

/-!
# Keeping what was loaded

A loader that keeps what it loads answers like one that does not, as long as the sources are
documents and no two of them differ in nothing but the order of entries
(`Loader.answers_of_documents`). It hands out copies, and it finds what it has kept under a text that
the source is written as; so it fails where data cannot be copied or a source cannot be written, and
nowhere else. Mappings whose keys have no order cannot be written at all
(`Loader.answers_ne_of_mixed_keys`).

## The architecture

* **`Loader.answers`** — what a loader answers to one source after the other.
* **`Source.SortsAlike`** — two sources differ at most in the order of entries.
* **`Loader.exists_memoKey`**, **`Loader.sortsAlike_of_memoKey`** — the text under which the data of
  a source are kept exists, and tells the source but for the order of entries.
* **`Loader.copied`**, **`Loader.keptAnswer`** — an answer that has to be copied, and what is left of
  the answer of a loader that keeps nothing.
* **`Loader.Remembers`** — the invariant: whatever is kept is what some source with that text gives.
* **`Loader.Remembers.load`** — one loading answers what reading does, copied, and keeps the invariant.
* **`IsFileName`** — names of files that are found as they are written, for the examples.
-/

namespace Rostering

open Json (IsDocument ReadsBack)

/-- Both are read from the same place, or written out, with values that differ at most in the order
of entries. -/
def Source.SortsAlike : Source → Source → Prop
  | .csv p a, .csv q b => p = q ∧ Json.sortKeys (.map a) = Json.sortKeys (.map b)
  | .json p a, .json q b => p = q ∧ a = b
  | .literal a, .literal b => Json.sortKeys a = Json.sortKeys b
  | _, _ => False

/-! ## A single file -/

/-- The text is a name that a file in the working directory can have. -/
structure IsFileName (name : String) : Prop where
  noSlash : '/' ∉ name.toList
  relative : name.startsWith "/" = false
  notStep : name ≠ "" ∧ name ≠ "." ∧ name ≠ ".."
  short : name.utf8ByteSize ≤ nameLimit

/-- A name is a path of one step. -/
theorem IsFileName.ofText_eq {name : String} (hname : IsFileName name) :
    Path.ofText name = ⟨false, [name]⟩ := by
  have hsteps : name.splitOn "/" = [name] := splitOn_eq_singleton '/' hname.noSlash
  obtain ⟨hempty, hhere, -⟩ := hname.notStep
  unfold Path.ofText
  rw [hsteps, hname.relative]
  simp [hempty, hhere]

theorem isFileName_json : IsFileName "d.json" where
  noSlash := by decide
  relative := by decide +kernel
  notStep := by decide
  short := by decide

/-- A working directory with one file in it. -/
def Directory.ofFile (name text : String) : Directory :=
  Directory.empty.write (.ofText name) text

/-- The file is found by its name, by any loader. -/
theorem Loader.content?_ofFile {σ : Type} (l : Loader σ) {name : String} (hname : IsFileName name)
    (text : String) : l.content? (.ofFile name text) name = .ok (some text) := by
  have hpath := hname.ofText_eq
  -- there is one folder and one file in it
  have hentries : (Directory.ofFile name text).entryAt [] = some .folder
      ∧ (Directory.ofFile name text).entryAt [name] = some (.file text) := by
    unfold Directory.ofFile Directory.write Directory.empty Directory.entryAt
    rw [hpath]
    simp [List.lookup]
  obtain ⟨hfolder, hfile⟩ := hentries
  have hup : (name != "..") = true := bne_iff_ne.mpr hname.notStep.2.2
  have hfound : (Directory.ofFile name text).find? (.ofText name) = some (.file text) := by
    rw [hpath]
    simp [Directory.find?, Directory.follow, hfolder, hfile, hup]
  have hshort := hname.short
  have htext : (Path.mk false [name]).text = name := by simp [Path.text]
  -- the name is short, so the system does not refuse it
  have hdenies : (Directory.ofFile name text).denies (.ofText name) = false := by
    have hlimits : nameLimit ≤ pathLimit := by decide
    rw [hpath]
    simp only [Directory.denies, Directory.deniesFrom, htext, hfolder, hup]
    simp only [nameLimit] at hshort hlimits
    simp [nameLimit]
    omega
  have hrelative : (Path.ofText name).absolute = false := by rw [hpath]
  simp [content?, resolve, exists?, Directory.has, Directory.content?, hdenies, hfound, hrelative,
    pure, Except.pure, bind, Except.bind]

namespace Loader

variable {σ : Type}

/-- The answers to sources that are loaded one after the other. -/
def answers (l : Loader σ) (w : World σ) : List Source → List (Except Failure Value)
  | [] => []
  | s :: rest =>
    let (result, l, w) := l.load w s
    result :: answers l w rest

/-! ## Reading files and literals -/

/-- A source that is read from a file or written out, and is given documents whose floats read
back. -/
structure IsPlain (s : Source) : Prop where
  notLive : isLive s = false
  documents : s.HasDocuments
  readsBack : ∀ x ∈ (Config.encodeSource s).floats, ReadsBack x

/-- Reading looks at nothing that is kept, nor at whether it is kept. -/
theorem read_keeping (l : Loader σ) (w : World σ) {s : Source} (hs : isLive s = false)
    (keeps : Bool) (memo : Named Value) :
    ({ l with keeps := keeps, memo := memo } : Loader σ).read w s = l.read w s := by
  cases s with
  | csv path options => rfl
  | json path steps => rfl
  | literal data => rfl
  | api url headers transform => cases hs
  | function name args => cases hs

/-! ## Keys -/

/-- The values of a plain source can be sorted and written, so that the text to keep its data under
exists wherever the stack bears writing it. -/
theorem exists_memoKey {s : Source} (hs : IsPlain s) :
    ∃ v, Json.sortKeys (Config.encodeSource s) = some v ∧ IsDocument v
      ∧ (∀ x ∈ v.floats, ReadsBack x) ∧ ∃ key, Json.print? .spaced v = some key
      ∧ ∀ stack : Stack, memoKey stack s
        = if stack.writes (Config.encodeSource s) then .ok key else .error .endless := by
  have hencoded := Config.encodeSource_isDocument hs.documents
  obtain ⟨v, hsorted, hdocument, hsub⟩ := hencoded.sortKeys
  have hreads : ∀ x ∈ v.floats, ReadsBack x := fun x hx => hs.readsBack x (hsub x hx)
  obtain ⟨key, hkey, -⟩ := Json.parse?_print? Json.Style.isLawful_spaced hdocument hreads
  refine ⟨v, hsorted, hdocument, hreads, key, hkey, fun stack => ?_⟩
  unfold memoKey
  simp only [hsorted, Option.bind_some, hkey, hencoded.isEndless_eq_false, hencoded.hasText]
  cases stack.writes (Config.encodeSource s) <;> rfl

/-- The fields that a source from a file or a literal is written as. -/
def fieldsOf : Source → List (String × Value)
  | .csv path options => [("type", .str "csv"), ("path", .str path)]
      ++ Config.nonEmptyField "options" options.isEmpty (.map options)
  | .json path keyPath => [("type", .str "json"), ("path", .str path)]
      ++ Config.nonEmptyField "key_path" keyPath.isEmpty (Value.ofTexts keyPath)
  | .literal data => [("type", .str "literal"), ("data", data)]
  | _ => []

theorem encodeSource_eq {s : Source} (hs : isLive s = false) :
    Config.encodeSource s = Value.ofFields (fieldsOf s) := by
  cases s with
  | csv path options => rfl
  | json path steps => rfl
  | literal data => rfl
  | api url headers transform => cases hs
  | function name args => cases hs

/-- What is left out is empty, so leaving it out tells as much as writing it. -/
theorem sortKeys_of_nonEmptyField {key : String} {isEmpty isEmpty' : Bool} {v w u u' : Value}
    (hv : Json.sortKeys v = some u) (hw : Json.sortKeys w = some u')
    (hlookup : ((Config.nonEmptyField key isEmpty v).lookup key).bind Json.sortKeys
      = ((Config.nonEmptyField key isEmpty' w).lookup key).bind Json.sortKeys) :
    isEmpty = true ∧ isEmpty' = true ∨ Json.sortKeys v = Json.sortKeys w := by
  simp only [Config.lookup_nonEmptyField, beq_self_eq_true, Bool.true_and] at hlookup
  cases isEmpty with
  | true =>
      cases isEmpty' with
      | true => exact Or.inl ⟨rfl, rfl⟩
      | false =>
          -- only the second is written, and what is written can be sorted
          change none = Json.sortKeys w at hlookup
          rw [hw] at hlookup
          cases hlookup
  | false =>
      cases isEmpty' with
      | true =>
          change Json.sortKeys v = none at hlookup
          rw [hv] at hlookup
          cases hlookup
      | false => exact Or.inr hlookup

/-- Sources that are written alike but for the order of entries are of one kind, and what they are
given is alike. -/
theorem sortsAlike_of_sortKeys {s t : Source} (hs : IsPlain s) (ht : IsPlain t)
    (heq : Json.sortKeys (Config.encodeSource s) = Json.sortKeys (Config.encodeSource t)) :
    s.SortsAlike t := by
  have hsdocument := Config.encodeSource_isDocument hs.documents
  have htdocument := Config.encodeSource_isDocument ht.documents
  rw [encodeSource_eq hs.notLive] at hsdocument heq
  rw [encodeSource_eq ht.notLive] at htdocument heq
  -- what is written under each field is the same but for the order of entries, for every field
  have hfield := Json.sortKeys_lookup hsdocument htdocument heq
  have htext : ∀ a b : String, some (Value.str a) = some (.str b) → a = b := fun a b h =>
    Value.str.inj (Option.some.inj h)
  cases s with
  | csv p a =>
      cases t with
      | csv q b =>
          refine ⟨htext p q (hfield "path"), ?_⟩
          obtain ⟨u, hu, -⟩ := IsDocument.sortKeys (v := .map a) hs.documents
          obtain ⟨u', hu', -⟩ := IsDocument.sortKeys (v := .map b) ht.documents
          -- options that are left out are empty ones
          rcases sortKeys_of_nonEmptyField hu hu' (hfield "options") with ⟨ha, hb⟩ | halike
          · rw [List.isEmpty_iff.mp ha, List.isEmpty_iff.mp hb]
          · exact halike
      | json q m => exact absurd (htext "csv" "json" (hfield "type")) (by decide)
      | literal data => exact absurd (htext "csv" "literal" (hfield "type")) (by decide)
      | api url headers transform => cases ht.notLive
      | function name args => cases ht.notLive
  | json p k =>
      cases t with
      | json q m =>
          refine ⟨htext p q (hfield "path"), ?_⟩
          rcases sortKeys_of_nonEmptyField (Json.sortKeys_ofTexts k) (Json.sortKeys_ofTexts m)
            (hfield "key_path") with ⟨hk, hm⟩ | halike
          · rw [List.isEmpty_iff.mp hk, List.isEmpty_iff.mp hm]
          · rw [Json.sortKeys_ofTexts, Json.sortKeys_ofTexts] at halike
            exact List.map_injective_iff.mpr (fun _ _ => Value.str.inj)
              (Value.list.inj (Option.some.inj halike))
      | csv q b => exact absurd (htext "json" "csv" (hfield "type")) (by decide)
      | literal data => exact absurd (htext "json" "literal" (hfield "type")) (by decide)
      | api url headers transform => cases ht.notLive
      | function name args => cases ht.notLive
  | literal data =>
      cases t with
      | literal data' => exact hfield "data"
      | csv q b => exact absurd (htext "literal" "csv" (hfield "type")) (by decide)
      | json q m => exact absurd (htext "literal" "json" (hfield "type")) (by decide)
      | api url headers transform => cases ht.notLive
      | function name args => cases ht.notLive
  | api url headers transform => cases hs.notLive
  | function name args => cases hs.notLive

/-- Sources with one key differ in nothing but the order of entries. -/
theorem sortsAlike_of_memoKey {stack : Stack} {s t : Source} (hs : IsPlain s) (ht : IsPlain t)
    {key : String} (hskey : memoKey stack s = .ok key) (htkey : memoKey stack t = .ok key) :
    s.SortsAlike t := by
  obtain ⟨v, hv, hvdocument, hvreads, _, hprinted, hsmemo⟩ := exists_memoKey hs
  obtain ⟨u, hu, hudocument, hureads, _, hprinted', htmemo⟩ := exists_memoKey ht
  rw [hsmemo] at hskey
  rw [htmemo] at htkey
  split at hskey
  · split at htkey
    -- one key is one text, and a text in this style is that of one value only
    · have htexts : Json.print? .spaced v = Json.print? .spaced u := by
        rw [hprinted, hprinted', Except.ok.inj hskey, Except.ok.inj htkey]
      have hvalues : v = u := Json.print?_injective Json.Style.isLawful_spaced hvdocument
        hudocument hvreads hureads htexts
      exact sortsAlike_of_sortKeys hs ht (by rw [hv, hu, hvalues])
    · cases htkey
  · cases hskey

/-! ## What is kept -/

/-- A copy is the value itself, if there is one. -/
theorem eq_of_copy {w : World σ} {v u : Value} (h : w.copy v = .ok u) : u = v := by
  unfold World.copy at h
  split at h
  · exact absurd h throw_ne_ok
  · split at h
    · exact (pure_eq_ok.mp h).symm
    · exact absurd h throw_ne_ok

/-- What was read, provided that it can be copied. -/
def copied (w : World σ) (result : Except Failure Value) : Except Failure Value :=
  result >>= fun v => (w.copy v).mapError .fault

theorem copied_eq_ok {w : World σ} {result : Except Failure Value} {v : Value} :
    copied w result = .ok v ↔ result = .ok v ∧ w.copy v = .ok v := by
  unfold copied
  simp only [bind_eq_ok, mapError_eq_ok]
  constructor
  · rintro ⟨u, hu, hcopy⟩
    obtain rfl := eq_of_copy hcopy
    exact ⟨hu, hcopy⟩
  · exact fun h => ⟨v, h⟩

/-- Copying what can be copied changes nothing, and nor does it for a failure. -/
theorem copied_of_copies {w : World σ} {result : Except Failure Value}
    (h : ∀ v, result = .ok v → w.copy v = .ok v) : copied w result = result := by
  cases result with
  | error e => rfl
  | ok v => exact copied_eq_ok.mpr ⟨rfl, h v rfl⟩

/-- Loading a file or a literal with a key looks the key up, and reads the source if nothing is
there. What was read is kept unless it cannot be copied. -/
theorem load_of_memoKey {l : Loader σ} (hkeeps : l.keeps = true) (w : World σ) {s : Source}
    (hs : isLive s = false) {key : String} (hkey : memoKey w.stack s = .ok key) :
    l.load w s = match l.memo.find? key, copied w (l.read w s).1 with
      | some v, _ => ((w.copy v).mapError .fault, l, w)
      | none, .ok v => (.ok v, { l with memo := l.memo.insert key v }, w)
      | none, .error e => (.error e, l, w) := by
  have hread : l.read w s = ((l.read w s).1, w) := Prod.ext rfl (read_snd l w hs)
  unfold Loader.load
  rw [hkeeps, hs, hkey, hread]
  generalize (l.read w s).1 = result
  -- what is found is copied again, and what is read is copied before it is kept
  cases hfound : l.memo.find? key with
  | some v => simp [hfound]
  | none =>
      cases result with
      | error e => simp [hfound, copied, bind, Except.bind]
      | ok v =>
          cases hcopy : w.copy v with
          | error f => simp [hfound, copied, hcopy, bind, Except.bind, Except.mapError]
          | ok u =>
              obtain rfl := eq_of_copy hcopy
              simp [hfound, copied, hcopy, bind, Except.bind, Except.mapError]

/-- A source without a text cannot be looked up, and nothing else happens. -/
theorem load_of_memoKey_error {l : Loader σ} (hkeeps : l.keeps = true) (w : World σ) {s : Source}
    (hs : isLive s = false) {f : Fault} (hkey : memoKey w.stack s = .error f) :
    l.load w s = (.error (.fault f), l, w) := by
  unfold Loader.load
  rw [hkeeps, hs, hkey]
  rfl

/-- Whatever is kept under a text is what reading a source with that text gives, and can be copied
again. -/
def Remembers (l : Loader σ) (w : World σ) (sources : List Source) : Prop :=
  ∀ key v, l.memo.find? key = some v →
    ∃ s ∈ sources, memoKey w.stack s = .ok key ∧ copied w (l.read w s).1 = .ok v

/-- The answer of a loader that keeps what it loads. There is none for a source that the stack does
not bear to be written, nor if what was read cannot be copied. -/
def keptAnswer (w : World σ) (s : Source) (plain : Except Failure Value) : Except Failure Value :=
  if w.stack.writes (Config.encodeSource s) then copied w plain else .error (.fault .endless)

section Keeping

variable {sources : List Source} (hplain : ∀ s ∈ sources, IsPlain s)
  (hdistinct : ∀ s ∈ sources, ∀ t ∈ sources, s.SortsAlike t → s = t)
include hplain

/-- The invariant is kept when data are put under the key of the source that gave them. -/
theorem Remembers.insert {l : Loader σ} {w : World σ} (hl : l.Remembers w sources) {s : Source}
    (hs : s ∈ sources) {key : String} (hkey : memoKey w.stack s = .ok key) {v : Value}
    (hread : copied w (l.read w s).1 = .ok v) :
    ({ l with memo := l.memo.insert key v } : Loader σ).Remembers w sources := by
  -- what is kept makes no difference to what is read
  have hreadings : ∀ t ∈ sources,
      ({ l with memo := l.memo.insert key v } : Loader σ).read w t = l.read w t :=
    fun t ht => read_keeping l w (hplain t ht).notLive l.keeps _
  intro other u hother
  rw [Named.find?_insert] at hother
  split at hother
  · next heq =>
      cases hother
      exact ⟨s, hs, heq ▸ hkey, by rw [hreadings s hs, hread]⟩
  · obtain ⟨t, ht, htkey, htread⟩ := hl other u hother
    exact ⟨t, ht, htkey, by rw [hreadings t ht, htread]⟩

include hdistinct

/-- One loading answers what reading does, copied, and what is kept after it is sound. What is found
under the key was given by a source that differs in order at most, and no two of the sources do. -/
theorem Remembers.load {l : Loader σ} {w : World σ} (hl : l.Remembers w sources)
    (hkeeps : l.keeps = true) {s : Source} (hs : s ∈ sources) :
    ∃ memo, l.load w s = (keptAnswer w s (l.read w s).1, { l with memo := memo }, w)
      ∧ ({ l with memo := memo } : Loader σ).Remembers w sources := by
  have hlive := (hplain s hs).notLive
  obtain ⟨-, -, -, -, key, -, hkey⟩ := exists_memoKey (hplain s hs)
  have hkey := hkey w.stack
  unfold keptAnswer
  split at hkey
  · next hwritten =>
    rw [load_of_memoKey hkeeps w hlive hkey, if_pos hwritten]
    cases hfound : l.memo.find? key with
    | some v =>
        -- the source that was read then has the same key, so it is the same source
        obtain ⟨t, ht, htkey, htread⟩ := hl key v hfound
        have hsame : t = s := hdistinct t ht s hs
          (sortsAlike_of_memoKey (hplain t ht) (hplain s hs) htkey hkey)
        rw [hsame] at htread
        have hcopy := (copied_eq_ok.mp htread).2
        rw [htread]
        simp only [hcopy]
        exact ⟨l.memo, rfl, hl⟩
    | none =>
        cases hread : copied w (l.read w s).1 with
        | error e => exact ⟨l.memo, rfl, hl⟩
        | ok v => exact ⟨l.memo.insert key v, rfl, hl.insert hplain hs hkey hread⟩
  · next hdeep =>
    rw [load_of_memoKey_error hkeeps w hlive hkey, if_neg hdeep]
    exact ⟨l.memo, rfl, hl⟩

/-- Every answer is what reading the source gives, copied. Induction on what is still to be
loaded. -/
theorem Remembers.answers_eq (rest : List Source) (hrest : ∀ s ∈ rest, s ∈ sources) :
    ∀ {l : Loader σ} {w : World σ}, l.Remembers w sources → l.keeps = true →
      l.answers w rest = rest.map fun s => keptAnswer w s (l.read w s).1 := by
  induction rest with
  | nil => exact fun _ _ => rfl
  | cons s rest ih =>
      intro l w hl hkeeps
      have hs := hrest s List.mem_cons_self
      have hlater : ∀ t ∈ rest, t ∈ sources := fun t ht => hrest t (List.mem_cons_of_mem s ht)
      -- the first source is answered by its reading, and the rest by a loader that remembers as
      -- well
      obtain ⟨memo, hload, hkept⟩ := hl.load hplain hdistinct hkeeps hs
      rw [answers, hload, List.map_cons]
      simp only
      rw [ih hlater hkept hkeeps]
      refine congrArg _ (List.map_congr_left fun t ht => ?_)
      rw [read_keeping l w (hplain t (hlater t ht)).notLive l.keeps memo]

end Keeping

/-! ## Answers -/

/-- A loader that keeps nothing answers what reading gives. -/
theorem answers_of_not_keeps {l : Loader σ} (hkeeps : l.keeps = false) (w : World σ)
    {sources : List Source} (hlive : ∀ s ∈ sources, isLive s = false) :
    l.answers w sources = sources.map fun s => (l.read w s).1 := by
  induction sources with
  | nil => rfl
  | cons s rest ih =>
      have hload : l.load w s = ((l.read w s).1, l, w) := by
        have hworld := read_snd l w (hlive s List.mem_cons_self)
        unfold Loader.load
        simp [hkeeps, hworld]
      rw [answers, hload, List.map_cons]
      simp only
      rw [ih fun t ht => hlive t (List.mem_cons_of_mem s ht)]

/-- A fresh loader that keeps what it loads answers any sequence of files and literals like one that
keeps nothing, if all of them are documents and none is another with its entries in another order; the
one difference is that a source has to be written and what was read has to be copied, and where that
cannot be done there is a bare fault. If all of it can be done, the answers are the same. -/
theorem answers_of_documents {l : Loader σ} (hfresh : l.memo = .empty) (w : World σ)
    {sources : List Source} (hplain : ∀ s ∈ sources, IsPlain s)
    (hdistinct : ∀ s ∈ sources, ∀ t ∈ sources, s.SortsAlike t → s = t) :
    let kept := ({ l with keeps := true } : Loader σ).answers w sources
    let plain := ({ l with keeps := false } : Loader σ).answers w sources
    kept = List.zipWith (keptAnswer w) sources plain
      ∧ ((∀ s ∈ sources, w.stack.writes (Config.encodeSource s) = true) →
        (∀ v, .ok v ∈ plain → w.copy v = .ok v) → kept = plain) := by
  intro kept plain
  -- a fresh loader remembers nothing, which is all right
  have hnothing : ({ l with keeps := true } : Loader σ).Remembers w sources := by
    intro key v hfound
    rw [show ({ l with keeps := true } : Loader σ).memo = .empty from hfresh] at hfound
    cases hfound
  have hplainly : plain = sources.map fun s => (l.read w s).1 := by
    refine (answers_of_not_keeps rfl w fun s hs => (hplain s hs).notLive).trans ?_
    exact List.map_congr_left fun s hs =>
      congrArg Prod.fst (read_keeping l w (hplain s hs).notLive false l.memo)
  have hkept : kept = sources.map fun s => keptAnswer w s (l.read w s).1 := by
    refine (hnothing.answers_eq hplain hdistinct sources (fun s hs => hs) rfl).trans ?_
    refine List.map_congr_left fun s hs => ?_
    rw [read_keeping l w (hplain s hs).notLive true l.memo]
  -- both are lists of readings, so they are compared source by source
  refine ⟨?_, fun hwrites hcopies => ?_⟩
  · rw [hkept, hplainly, List.zipWith_map_right, List.zipWith_self]
  · rw [hkept, hplainly]
    refine List.map_congr_left fun s hs => ?_
    rw [keptAnswer, if_pos (hwrites s hs)]
    refine copied_of_copies fun v hv => hcopies v ?_
    rw [hplainly]
    exact List.mem_map.mpr ⟨s, hs, hv⟩

/-- A file is read twice, with a step that leads nowhere and a literal in between. -/
theorem answers_of_documents_of_repeated :
    let l : Loader Unit := ⟨.empty, .ofText "data", .null, false, .empty⟩
    let w : World Unit := { World.bare () with files := .ofFile "d.json" "\x7b\"a\":[1,2]\x7d" }
    let item := Source.json "d.json" ["a", "0"]
    let missing := Source.json "d.json" ["b"]
    let fields := Source.literal (Value.ofFields [("b", .float 0.5), ("a", .null)])
    let sources := [item, missing, fields, item]
    l.memo = .empty ∧ (∀ s ∈ sources, IsPlain s)
      ∧ (∀ s ∈ sources, ∀ t ∈ sources, s.SortsAlike t → s = t)
      ∧ ({ l with keeps := true } : Loader Unit).answers w sources
        = ({ l with keeps := false } : Loader Unit).answers w sources := by
  intro l w item missing fields sources
  have hfile := fun text => l.content?_ofFile isFileName_json text
  have hitem : (l.read w item).1 = .ok (.int 1) := by
    simp only [w, item, Loader.read, readJson, hfile, Except.mapError]
    cbv
  have hmissing : (l.read w missing).1
      = .error (.source ⟨.keyPathMissing "d.json" ["b"], some missing.label⟩) := by
    simp only [w, missing, Loader.read, readJson, hfile, Except.mapError]
    cbv
  have hplain : ∀ s ∈ sources, IsPlain s := by
    have hfields : IsDocument (Value.ofFields [("b", .float 0.5), ("a", .null)]) :=
      Json.isDocument_ofFields_iff.mpr ⟨by simp, by simp [IsDocument.float, IsDocument.null]⟩
    have hfloat : ∀ x ∈ (Config.encodeSource fields).floats, ReadsBack x := by
      rw [show (Config.encodeSource fields).floats = [0.5] from rfl]
      decide +kernel
    simp only [sources, List.forall_mem_cons]
    exact ⟨⟨rfl, trivial, fun _ h => by cases h⟩, ⟨rfl, trivial, fun _ h => by cases h⟩,
      ⟨rfl, hfields, hfloat⟩, ⟨rfl, trivial, fun _ h => by cases h⟩, by simp⟩
  -- no two of them are of one kind and alike, apart from the file that is read twice
  have hdistinct : ∀ s ∈ sources, ∀ t ∈ sources, s.SortsAlike t → s = t := by
    intro s hs t ht halike
    simp only [sources, List.mem_cons, List.not_mem_nil, or_false] at hs ht
    rcases hs with rfl | rfl | rfl | rfl <;> rcases ht with rfl | rfl | rfl | rfl
    all_goals first | rfl | exact absurd halike (by simp [Source.SortsAlike, item, missing, fields])
  have hcopies : ∀ v, .ok v ∈ ({ l with keeps := false } : Loader Unit).answers w sources →
      w.copy v = .ok v := by
    intro v hv
    rw [answers_of_not_keeps rfl w fun s hs => (hplain s hs).notLive] at hv
    obtain ⟨s, hs, hv⟩ := List.mem_map.mp hv
    simp only [sources, List.mem_cons, List.not_mem_nil, or_false] at hs
    rcases hs with rfl | rfl | rfl | rfl
    · cases hitem.symm.trans hv
      rfl
    · cases hmissing.symm.trans hv
    · cases hv
      rfl
    · cases hitem.symm.trans hv
      rfl
  exact ⟨rfl, hplain, hdistinct,
    (answers_of_documents (l := l) rfl w hplain hdistinct).2 (fun _ _ => rfl) hcopies⟩

/-- A literal that mixes numbers and texts as keys: it is answered as it is written, unless what is
loaded is kept. -/
theorem answers_ne_of_mixed_keys :
    let l : Loader Unit := ⟨.empty, .ofText "data", .null, false, .empty⟩
    let w : World Unit := .bare ()
    let data := Value.map [(.int 1, .str "a"), (.str "b", .int 2)]
    Config.source (Value.ofFields [("type", .str "literal"), ("data", data)]) "source"
        = .ok (.literal data)
      ∧ ({ l with keeps := false } : Loader Unit).answers w [.literal data] = [.ok data]
      ∧ ({ l with keeps := true } : Loader Unit).answers w [.literal data]
        = [.error (.fault .mistyped)] :=
  ⟨Config.source_encodeSource (s := .literal _) trivial _, rfl, rfl⟩

end Loader

end Rostering
