/-!
# Named — values under distinct names, in the order in which the names came first

Sections of a specification, arguments, capabilities and sessions are all looked up by name and
listed in the order in which they appeared. `Named.insert` replaces the value of a name in its
place and appends a new name, so the order of the names never changes for an old one.

* `names_insert` — which names there are after an insertion, and in which order;
* `find?_insert` — what is found under which name after it.
-/

namespace Rostering

universe u v

/-! ## Entry lists -/

/-- Replaces the value of a name in its place, or appends the name. -/
def insertEntry {α : Type u} (name : String) (value : α) : List (String × α) → List (String × α)
  | [] => [(name, value)]
  | (n, v) :: rest =>
    if n = name then (n, value) :: rest else (n, v) :: insertEntry name value rest

/-- An old name keeps its place and a new one comes last. -/
theorem map_fst_insertEntry {α : Type u} (name : String) (value : α) (l : List (String × α)) :
    (insertEntry name value l).map Prod.fst
      = if name ∈ l.map Prod.fst then l.map Prod.fst else l.map Prod.fst ++ [name] := by
  induction l with
  | nil => simp [insertEntry]
  | cons p rest ih =>
    obtain ⟨n, v⟩ := p
    by_cases h : n = name
    · simp [insertEntry, h]
    · have h' : ¬ name = n := fun e => h e.symm
      simp only [insertEntry, h, if_false, List.map_cons, ih, List.mem_cons, h', false_or]
      split <;> simp

theorem nodup_insertEntry {α : Type u} (name : String) (value : α) (l : List (String × α))
    (h : (l.map Prod.fst).Nodup) : ((insertEntry name value l).map Prod.fst).Nodup := by
  rw [map_fst_insertEntry]
  split
  · exact h
  · next hn =>
    rw [List.nodup_append]
    refine ⟨h, by simp, ?_⟩
    intro a ha b hb
    have : b = name := by simpa using hb
    subst this
    exact fun e => hn (e ▸ ha)

/-! ## The container -/

/-- Values under distinct names, in the order in which the names came first. -/
structure Named (α : Type u) where
  entries : List (String × α)
  distinct : (entries.map Prod.fst).Nodup

namespace Named

variable {α : Type u} {β : Type v}

def empty : Named α := ⟨[], by simp⟩

instance : Inhabited (Named α) := ⟨empty⟩

def names (m : Named α) : List String := m.entries.map Prod.fst

def values (m : Named α) : List α := m.entries.map Prod.snd

def isEmpty (m : Named α) : Bool := m.entries.isEmpty

def size (m : Named α) : Nat := m.entries.length

def find? (m : Named α) (name : String) : Option α := m.entries.lookup name

def contains (m : Named α) (name : String) : Bool := (m.find? name).isSome

/-- Gives a name a value, in the old place of the name or at the end. -/
def insert (m : Named α) (name : String) (value : α) : Named α :=
  ⟨insertEntry name value m.entries, nodup_insertEntry name value m.entries m.distinct⟩

def erase (m : Named α) (name : String) : Named α :=
  ⟨m.entries.filter fun e => e.1 != name, by
    exact m.distinct.sublist (List.Sublist.map _ List.filter_sublist)⟩

/-- Inserts entries one after the other, so of entries with one name the last value counts. -/
def ofList (l : List (String × α)) : Named α :=
  l.foldl (fun m e => m.insert e.1 e.2) empty

def map (f : String → α → β) (m : Named α) : Named β :=
  ⟨m.entries.map fun e => (e.1, f e.1 e.2), by
    have h := m.distinct
    simpa [List.map_map, Function.comp_def] using h⟩

/-- Changes the values where that succeeds for all of them, first entry first. -/
def mapExcept {ε : Type} (f : String → α → Except ε β) (m : Named α) : Except ε (Named β) := do
  let entries ← m.entries.mapM fun e => do
    let v ← f e.1 e.2
    pure (e.1, v)
  pure (ofList entries)

/-! ## What is found where -/

theorem names_insert (m : Named α) (name : String) (value : α) :
    (m.insert name value).names = if name ∈ m.names then m.names else m.names ++ [name] :=
  map_fst_insertEntry name value m.entries

theorem lookup_insertEntry (l : List (String × α)) (name other : String) (value : α) :
    (insertEntry name value l).lookup other
      = if other = name then some value else l.lookup other := by
  induction l with
  | nil =>
    by_cases h : other = name
    · simp [insertEntry, h]
    · have h' : (other == name) = false := by simpa using h
      simp [insertEntry, List.lookup_cons, h, h']
  | cons p rest ih =>
    obtain ⟨n, v⟩ := p
    by_cases hn : n = name
    · subst hn
      by_cases h : other = n
      · simp [insertEntry, h]
      · have h' : (other == n) = false := by simpa using h
        simp [insertEntry, List.lookup_cons, h, h']
    · by_cases h : other = n
      · subst h
        simp [insertEntry, hn]
      · have h' : (other == n) = false := by simpa using h
        simp only [insertEntry, hn, if_false, List.lookup_cons, h']
        exact ih

theorem find?_insert (m : Named α) (name other : String) (value : α) :
    (m.insert name value).find? other = if other = name then some value else m.find? other :=
  lookup_insertEntry m.entries name other value

end Named

end Rostering
