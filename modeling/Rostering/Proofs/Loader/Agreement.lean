import Mathlib
import Rostering.Loader
import Rostering.Proofs.Named

/-!
# Loading in worlds that agree

What is loaded depends on the files, the network, the functions and whatever reads tables for them,
not on what happened before: in two worlds that have all of these in common, a loader whose functions
are pure gives the same results.

## The architecture

* **`World.Agrees`** — the worlds differ at most in the state of the functions and in the requests
  that were made.
* **`Loader.IsPure`** — what a function answers depends on its arguments alone.
* **`Loader.RunsAlike`** — two runs have the same result and leave agreeing worlds behind. One lemma
  for each layer of loading, from a single call to a whole specification.
* **`Loader.materializeEntries_cons`** — what loading all parameters does with the first of them.
-/

namespace Rostering

variable {σ : Type}

/-- The files and the network are the same, and so is what becomes of texts and values. -/
structure World.Agrees (w w' : World σ) : Prop where
  files : w.files = w'.files
  tables : w.tables = w'.tables
  stack : w.stack = w'.stack
  reply : w.reply = w'.reply

theorem World.Agrees.copy {w w' : World σ} (hw : w.Agrees w') (v : Value) : w.copy v = w'.copy v := by
  unfold World.copy
  rw [hw.stack]

namespace Loader

/-- What a function answers depends on its arguments alone. -/
def IsPure (l : Loader σ) : Prop :=
  ∀ e ∈ l.functions.entries, ∀ args a b, (e.2 args a).1 = (e.2 args b).1

/-- Two runs have the same result and leave the same loader and agreeing worlds behind. -/
structure RunsAlike {α : Type} (r r' : Except Failure α × Loader σ × World σ) : Prop where
  result : r.1 = r'.1
  loader : r.2.1 = r'.2.1
  world : r.2.2.Agrees r'.2.2

section Sources

variable {l : Loader σ} (hl : l.IsPure) {w w' : World σ} (hw : w.Agrees w')
include hl hw

/-- A function is called alike in both worlds: if it is pure, what it answers depends on its
arguments, and only its own state is another one afterwards. -/
theorem call_agrees (s : Source) (name : String) (args : List Value) :
    (l.call w s name args).1 = (l.call w' s name args).1
      ∧ (l.call w s name args).2.Agrees (l.call w' s name args).2 := by
  unfold call
  cases hfound : l.functions.find? name with
  | none => exact ⟨rfl, hw⟩
  | some f =>
      have hmem : (name, f) ∈ l.functions.entries := (l.functions.mem_entries_iff name f).mpr hfound
      -- the states differ, so purity is what makes the answers the same
      have hanswer : (f args w.state).1 = (f args w'.state).1 := hl (name, f) hmem args _ _
      unfold World.call
      cases hrun : f args w.state with
      | mk result state =>
          cases hrun' : f args w'.state with
          | mk result' state' =>
              rw [hrun, hrun'] at hanswer
              cases hanswer
              simp only [hrun, hrun']
              cases result with
              | ok v => exact ⟨rfl, hw.files, hw.tables, hw.stack, hw.reply⟩
              | error fault => exact ⟨rfl, hw.files, hw.tables, hw.stack, hw.reply⟩

theorem fetch_agrees (s : Source) (url : String) (headers : Named String)
    (transform : Option String) :
    (l.fetch w s url headers transform).1 = (l.fetch w' s url headers transform).1
      ∧ (l.fetch w s url headers transform).2.Agrees (l.fetch w' s url headers transform).2 := by
  -- the request is written down in both worlds, and nothing else changes
  let w₁ : World σ := { w with requests := w.requests ++ [⟨url, headers, l.timeout⟩] }
  let w₁' : World σ := { w' with requests := w'.requests ++ [⟨url, headers, l.timeout⟩] }
  have hsent : w₁.Agrees w₁' := ⟨hw.files, hw.tables, hw.stack, hw.reply⟩
  have hreply : w.reply url = w'.reply url := by rw [hw.reply]
  unfold fetch World.send
  rw [← hreply]
  cases w.reply url with
  | lost reason => exact ⟨rfl, hsent⟩
  | failed f => exact ⟨rfl, hsent⟩
  | answered status body =>
      have hreads : w.stack.reads body = w'.stack.reads body := by rw [hw.stack]
      simp only [hreads]
      split
      · exact ⟨rfl, hsent⟩
      · split
        · exact ⟨rfl, hsent⟩
        · cases Json.parse? body with
          | none => exact ⟨rfl, hsent⟩
          | some v =>
              cases transform with
              | none => exact ⟨rfl, hsent⟩
              | some name => exact call_agrees hl hsent s name [v]

theorem read_agrees (s : Source) :
    (l.read w s).1 = (l.read w' s).1 ∧ (l.read w s).2.Agrees (l.read w' s).2 := by
  cases s with
  | csv path options =>
      unfold read readCsv
      rw [hw.files, hw.tables]
      exact ⟨rfl, hw⟩
  | json path steps =>
      unfold read readJson
      rw [hw.files, hw.stack]
      exact ⟨rfl, hw⟩
  | api url headers transform => exact fetch_agrees hl hw _ url headers transform
  | function name args => exact call_agrees hl hw _ name args
  | literal data => exact ⟨rfl, hw⟩

/-- Loading a source runs alike: with the same key, the same look-up, and the same reading where
nothing is found. -/
theorem load_alike (s : Source) : RunsAlike (l.load w s) (l.load w' s) := by
  obtain ⟨hresult, hworlds⟩ := read_agrees hl hw s
  unfold load
  rw [← hw.stack]
  cases hread : l.read w s with
  | mk result w₁ =>
      cases hread' : l.read w' s with
      | mk result' w₁' =>
          rw [hread, hread'] at hresult hworlds
          cases hresult
          split
          · exact ⟨rfl, rfl, hworlds⟩
          · cases memoKey w.stack s with
            | error f => exact ⟨rfl, rfl, hw⟩
            | ok key =>
                simp only
                -- what is kept is in the loader, which both runs share
                cases l.memo.find? key with
                | some v => exact ⟨congrArg (Except.mapError _) (hw.copy v), rfl, hw⟩
                | none =>
                    cases result with
                    | error e => exact ⟨rfl, rfl, hworlds⟩
                    | ok v =>
                        simp only [hworlds.copy v]
                        cases w₁'.copy v with
                        | error f => exact ⟨rfl, rfl, hworlds⟩
                        | ok kept => exact ⟨rfl, rfl, hworlds⟩

end Sources

/-- Reading a file or a literal does nothing to the world. -/
theorem read_snd (l : Loader σ) (w : World σ) {s : Source} (hs : isLive s = false) :
    (l.read w s).2 = w := by
  cases s with
  | csv path options => rfl
  | json path steps => rfl
  | literal data => rfl
  | api url headers transform => cases hs
  | function name args => cases hs

/-- Loading registers no functions. -/
theorem functions_load (l : Loader σ) (w : World σ) (s : Source) :
    (l.load w s).2.1.functions = l.functions := by
  unfold load
  split
  · rfl
  -- whichever way it goes, only the data that are kept change
  · cases memoKey w.stack s with
    | error f => rfl
    | ok key =>
        simp only
        cases l.memo.find? key with
        | some v => rfl
        | none =>
            simp only
            split
            · rfl
            · split <;> rfl

theorem functions_materialize (l : Loader σ) (w : World σ) (p : Parameter) :
    (l.materialize w p).2.1.functions = l.functions := by
  cases p with
  | scalar value type => rfl
  | table schema s data => exact functions_load l w s
  | mapping key s data => exact functions_load l w s

theorem materialize_alike {l : Loader σ} (hl : l.IsPure) {w w' : World σ} (hw : w.Agrees w')
    (p : Parameter) : RunsAlike (l.materialize w p) (l.materialize w' p) := by
  cases p with
  | scalar value type => exact ⟨rfl, rfl, hw⟩
  | table schema s data =>
      obtain ⟨hresult, hloader, hworld⟩ := load_alike hl hw s
      exact ⟨by simp only [materialize, hresult], hloader, hworld⟩
  | mapping key s data =>
      obtain ⟨hresult, hloader, hworld⟩ := load_alike hl hw s
      exact ⟨by simp only [materialize, hresult], hloader, hworld⟩

/-! ## One parameter after the other -/

/-- What loading all parameters does with one of them: data that it has are left alone. -/
def settle (l : Loader σ) (w : World σ) (p : Parameter) :
    Except Failure Parameter × Loader σ × World σ :=
  if isPending p then l.materialize w p else (.ok p, l, w)

theorem materializeEntries_cons (l : Loader σ) (w : World σ) (name : String) (p : Parameter)
    (es : List (String × Parameter)) :
    l.materializeEntries w ((name, p) :: es) = match l.settle w p with
      | (.error e, l, w) => (.error e, l, w)
      | (.ok q, l, w) => ((l.materializeEntries w es).1.map ((name, q) :: ·),
        (l.materializeEntries w es).2) := by
  rw [materializeEntries]
  unfold settle
  rcases (if isPending p then l.materialize w p else (.ok p, l, w)) with ⟨result, l', w'⟩
  cases result with
  | error e => rfl
  | ok q => rfl

theorem settle_alike {l : Loader σ} (hl : l.IsPure) {w w' : World σ} (hw : w.Agrees w')
    (p : Parameter) : RunsAlike (l.settle w p) (l.settle w' p) := by
  unfold settle
  split
  · exact materialize_alike hl hw p
  · exact ⟨rfl, rfl, hw⟩

theorem IsPure.settle {l : Loader σ} (hl : l.IsPure) (w : World σ) (p : Parameter) :
    (l.settle w p).2.1.IsPure := by
  have hfunctions : (l.settle w p).2.1.functions = l.functions := by
    unfold Loader.settle
    split
    · exact functions_materialize l w p
    · rfl
  unfold IsPure
  rw [hfunctions]
  exact hl

/-- Parameters are loaded alike one after the other. Induction on the parameters that are left. -/
theorem materializeEntries_alike (es : List (String × Parameter)) :
    ∀ {l : Loader σ} (_ : l.IsPure) {w w' : World σ} (_ : w.Agrees w'),
      RunsAlike (l.materializeEntries w es) (l.materializeEntries w' es) := by
  induction es with
  | nil => exact fun _ _ _ hw => ⟨rfl, rfl, hw⟩
  | cons e es ih =>
      intro l hl w w' hw
      obtain ⟨name, p⟩ := e
      rw [materializeEntries_cons, materializeEntries_cons]
      have hstep := settle_alike hl hw p
      -- the loader after the first parameter is pure as well, and the worlds agree again
      have hpure := hl.settle w p
      rcases hfirst : l.settle w p with ⟨result, l₁, w₁⟩
      rcases hfirst' : l.settle w' p with ⟨result', l₁', w₁'⟩
      rw [hfirst] at hstep hpure
      rw [hfirst'] at hstep
      obtain ⟨hresult, hloader, hworld⟩ := hstep
      cases hresult
      cases hloader
      cases result with
      | error e => exact ⟨rfl, rfl, hworld⟩
      | ok q =>
          obtain ⟨hresult, hloader, hworld⟩ := ih hpure hworld
          exact ⟨congrArg (Except.map _) hresult, hloader, hworld⟩

theorem materializeAll_alike {l : Loader σ} (hl : l.IsPure) {w w' : World σ} (hw : w.Agrees w')
    (s : Specification) : RunsAlike (l.materializeAll w s) (l.materializeAll w' s) := by
  obtain ⟨hresult, hloader, hworld⟩ := materializeEntries_alike s.parameters.entries hl hw
  exact ⟨congrArg (Except.map _) hresult, hloader, hworld⟩

end Loader

end Rostering
