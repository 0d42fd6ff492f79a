import Mathlib
import Rostering.Named
import Rostering.Proofs.Except

/-!
# Entries of named values

`Named.find?` and the list of entries say the same: since names are distinct, an entry is found
under its name, and nothing else is (`mem_entries_iff`). Erasing and mapping are described by what
is found after them, and two containers with the same entries in the same order are equal. Containers
with the same names are compared value by value (`Named.Related`).
-/

namespace Rostering.Named

universe u v

variable {α : Type u} {β : Type v}

/-- Containers are equal when they have the same entries in the same order. -/
theorem ext_entries {m n : Named α} (h : m.entries = n.entries) : m = n := by
  cases m with
  | mk l hl =>
      cases n with
      | mk k hk =>
          cases h
          rfl

/-! ## Entries and look-up -/

/-- Looking up a name in a list with distinct names finds exactly its entry. Induction on the
list. -/
theorem mem_iff_lookup {l : List (String × α)} (hl : (l.map Prod.fst).Nodup) (name : String)
    (a : α) : (name, a) ∈ l ↔ l.lookup name = some a := by
  induction l with
  | nil => simp
  | cons e rest ih =>
    obtain ⟨n, b⟩ := e
    have hrest : (rest.map Prod.fst).Nodup := (List.nodup_cons.mp hl).2
    have hfresh : n ∉ rest.map Prod.fst := (List.nodup_cons.mp hl).1
    by_cases h : name = n
    · subst h
      have hnot : (name, a) ∉ rest := fun hmem => hfresh (List.mem_map_of_mem hmem)
      simp [hnot, eq_comm]
    · have hne : (name == n) = false := by simpa using h
      simp [List.lookup_cons, hne, h, ih hrest]

/-- An entry is in the container exactly if its value is found under its name. -/
theorem mem_entries_iff (m : Named α) (name : String) (a : α) :
    (name, a) ∈ m.entries ↔ m.find? name = some a :=
  mem_iff_lookup m.distinct name a

theorem mem_names_iff {m : Named α} {name : String} :
    name ∈ m.names ↔ (m.find? name).isSome := by
  rw [names, List.mem_map, Option.isSome_iff_exists]
  constructor
  · rintro ⟨e, he, rfl⟩
    exact ⟨e.2, (m.mem_entries_iff e.1 e.2).mp he⟩
  · rintro ⟨a, ha⟩
    exact ⟨(name, a), (m.mem_entries_iff name a).mpr ha, rfl⟩

/-- Containers are equal when they have the same names in the same order and the same value under
each of them. -/
theorem ext_find? {m n : Named α} (hnames : m.names = n.names)
    (hfind : ∀ name, m.find? name = n.find? name) : m = n := by
  -- the entries are told by the names and what is found under each
  have hentries : ∀ k : Named α,
      k.entries.map (fun e => (e.1, some e.2)) = k.names.map fun name => (name, k.find? name) := by
    intro k
    unfold names
    rw [List.map_map]
    exact List.map_congr_left fun e he => congrArg (Prod.mk e.1)
      ((k.mem_entries_iff e.1 e.2).mp he).symm
  have hinjective : Function.Injective fun e : String × α => (e.1, some e.2) := by
    rintro ⟨k, v⟩ ⟨l, w⟩ heq
    cases heq
    rfl
  refine ext_entries (List.map_injective_iff.mpr hinjective ?_)
  show m.entries.map _ = n.entries.map _
  rw [hentries m, hentries n, hnames]
  exact List.map_congr_left fun name _ => congrArg (Prod.mk name) (hfind name)

@[simp] theorem find?_empty (name : String) : (empty : Named α).find? name = none := rfl

/-! ## Inserting -/

/-- After an insertion an entry is the new one or an old one. -/
theorem mem_insertEntry {l : List (String × α)} {name : String} {a : α} {e : String × α}
    (he : e ∈ insertEntry name a l) : e = (name, a) ∨ e ∈ l := by
  induction l with
  | nil => exact Or.inl (List.mem_singleton.mp he)
  | cons first rest ih =>
    obtain ⟨n, b⟩ := first
    rw [insertEntry] at he
    split at he
    · next hname =>
      cases List.mem_cons.mp he with
      | inl hfirst => exact Or.inl (by rw [hfirst, hname])
      | inr hrest => exact Or.inr (List.mem_cons_of_mem _ hrest)
    · cases List.mem_cons.mp he with
      | inl hfirst => exact Or.inr (hfirst ▸ List.mem_cons_self)
      | inr hrest =>
        cases ih hrest with
        | inl hnew => exact Or.inl hnew
        | inr hold => exact Or.inr (List.mem_cons_of_mem _ hold)

theorem mem_insert {m : Named α} {name : String} {a : α} {e : String × α}
    (he : e ∈ (m.insert name a).entries) : e = (name, a) ∨ e ∈ m.entries :=
  mem_insertEntry he

/-- What holds of all entries and of the new one holds after the insertion. -/
theorem forall_insert {p : String × α → Prop} {m : Named α} {name : String} {a : α}
    (hold : ∀ e ∈ m.entries, p e) (hnew : p (name, a)) : ∀ e ∈ (m.insert name a).entries, p e := by
  intro e he
  cases mem_insert he with
  | inl heq => exact heq ▸ hnew
  | inr hmem => exact hold e hmem

/-- Giving a name the value that it has changes nothing. -/
theorem insert_of_find? {m : Named α} {name : String} {a : α} (ha : m.find? name = some a) :
    m.insert name a = m := by
  have hentries : ∀ l : List (String × α), l.lookup name = some a → insertEntry name a l = l := by
    intro l hl
    induction l with
    | nil => cases hl
    | cons first rest ih =>
      obtain ⟨n, b⟩ := first
      rw [insertEntry]
      -- the name is found here, or further on
      split
      · next heq =>
        subst heq
        rw [List.lookup_cons_self] at hl
        cases hl
        rfl
      · next hne =>
        have hother : (name == n) = false := by simpa using Ne.symm hne
        rw [List.lookup_cons, hother] at hl
        rw [ih hl]
  exact ext_entries (hentries m.entries ha)

/-- The entries of a container that was filled from a list are among those of the list. -/
theorem mem_ofList {l : List (String × α)} {e : String × α} (he : e ∈ (ofList l).entries) :
    e ∈ l := by
  -- more general, for a container that is not empty at first
  have hfold : ∀ (l : List (String × α)) (m : Named α),
      e ∈ (l.foldl (fun m e => m.insert e.1 e.2) m).entries → e ∈ m.entries ∨ e ∈ l := by
    intro l
    induction l with
    | nil => exact fun m h => Or.inl h
    | cons first rest ih =>
      intro m h
      cases ih _ h with
      | inr hrest => exact Or.inr (List.mem_cons_of_mem _ hrest)
      | inl hinsert =>
        cases mem_insert hinsert with
        | inl hnew => exact Or.inr (hnew ▸ List.mem_cons_self)
        | inr hold => exact Or.inl hold
  cases hfold l empty he with
  | inl hnone => exact absurd hnone List.not_mem_nil
  | inr hmem => exact hmem

/-- A container that was filled from a list has the names of the list. -/
theorem mem_names_ofList {l : List (String × α)} {name : String} :
    name ∈ (ofList l).names ↔ name ∈ l.map Prod.fst := by
  -- an insertion adds its name, if it is not there yet
  have hinsert : ∀ (m : Named α) (e : String × α),
      name ∈ (m.insert e.1 e.2).names ↔ name ∈ m.names ∨ name = e.1 := by
    intro m e
    rw [names_insert]
    split
    · next hold => exact ⟨Or.inl, fun h => h.elim id fun heq => heq ▸ hold⟩
    · simp
  have hfold : ∀ (l : List (String × α)) (m : Named α),
      name ∈ (l.foldl (fun m e => m.insert e.1 e.2) m).names
        ↔ name ∈ m.names ∨ name ∈ l.map Prod.fst := by
    intro l
    induction l with
    | nil => simp
    | cons first rest ih =>
      intro m
      rw [List.foldl_cons, ih, hinsert, List.map_cons, List.mem_cons, or_assoc]
  rw [ofList, hfold]
  exact or_iff_right List.not_mem_nil

theorem insertEntry_of_not_mem {l : List (String × α)} {name : String} (a : α)
    (hfresh : name ∉ l.map Prod.fst) : insertEntry name a l = l ++ [(name, a)] := by
  induction l with
  | nil => rfl
  | cons first rest ih =>
    have hne : ¬ first.1 = name := fun h => hfresh (h ▸ List.mem_cons_self)
    have hrest : name ∉ rest.map Prod.fst := fun h => hfresh (List.mem_cons_of_mem _ h)
    rw [insertEntry, if_neg hne, ih hrest, List.cons_append]

/-- Entries with distinct names fill a container as they are. -/
theorem entries_ofList {l : List (String × α)} (hl : (l.map Prod.fst).Nodup) :
    (ofList l).entries = l := by
  -- what is still to come is fresh to what is there already
  have hfold : ∀ (l : List (String × α)) (m : Named α),
      ((m.entries ++ l).map Prod.fst).Nodup →
        (l.foldl (fun m e => m.insert e.1 e.2) m).entries = m.entries ++ l := by
    intro l
    induction l with
    | nil => exact fun m _ => (List.append_nil _).symm
    | cons first rest ih =>
      intro m hm
      have hfresh : first.1 ∉ m.entries.map Prod.fst := by
        rw [List.map_append, List.map_cons, List.nodup_append] at hm
        exact fun h => hm.2.2 _ h _ List.mem_cons_self rfl
      have hinsert : (m.insert first.1 first.2).entries = m.entries ++ [first] :=
        insertEntry_of_not_mem first.2 hfresh
      rw [List.foldl_cons, ih, hinsert, List.append_assoc, List.singleton_append]
      rw [hinsert, List.append_assoc, List.singleton_append]
      exact hm
  exact hfold l empty hl

/-- The second container is the first with one entry written: an old name keeps its place, a new
name comes last, and all other entries stay as they are, in their order. -/
inductive Writes (name : String) (a : α) (m n : Named α) : Prop where
  | replaced {before after : List (String × α)} {old : α}
      (hm : m.entries = before ++ (name, old) :: after)
      (hn : n.entries = before ++ (name, a) :: after)
  | appended (hfresh : name ∉ m.names) (hn : n.entries = m.entries ++ [(name, a)])

/-- Entries before the one of a name are passed by. -/
theorem insertEntry_append_cons {before after : List (String × α)} {name : String} {old : α}
    (hbefore : name ∉ before.map Prod.fst) (a : α) :
    insertEntry name a (before ++ (name, old) :: after) = before ++ (name, a) :: after := by
  induction before with
  | nil => rw [List.nil_append, List.nil_append, insertEntry, if_pos rfl]
  | cons first rest ih =>
    have hne : ¬ first.1 = name := fun h => hbefore (h ▸ List.mem_cons_self)
    have hrest : name ∉ rest.map Prod.fst := fun h => hbefore (List.mem_cons_of_mem _ h)
    rw [List.cons_append, List.cons_append, insertEntry, if_neg hne, ih hrest]

/-- Inserting is the one way to write an entry. A known name keeps its place, a new one comes last.
-/
theorem writes_iff {name : String} {a : α} {m n : Named α} :
    Writes name a m n ↔ m.insert name a = n := by
  -- a name stands before none of the entries in front of its own
  have hbefore : ∀ {before after : List (String × α)} {old : α},
      m.entries = before ++ (name, old) :: after → name ∉ before.map Prod.fst := by
    intro before after old hm h
    have hdistinct := m.distinct
    rw [hm, List.map_append, List.map_cons, List.nodup_append] at hdistinct
    exact hdistinct.2.2 _ h _ List.mem_cons_self rfl
  constructor
  · rintro (⟨hm, hn⟩ | ⟨hfresh, hn⟩)
    · apply ext_entries
      show insertEntry name a m.entries = n.entries
      rw [hm, hn, insertEntry_append_cons (hbefore hm)]
    · apply ext_entries
      rw [hn]
      exact insertEntry_of_not_mem a hfresh
  · rintro rfl
    by_cases hname : name ∈ m.names
    · obtain ⟨e, he, rfl⟩ := List.mem_map.mp hname
      obtain ⟨before, after, hm⟩ := List.append_of_mem he
      refine .replaced hm ?_
      show insertEntry e.1 a m.entries = _
      rw [hm, insertEntry_append_cons (hbefore hm)]
    · exact .appended hname (insertEntry_of_not_mem a hname)

/-- Filling a container from the entries of another gives the other. -/
theorem ofList_entries (m : Named α) : ofList m.entries = m :=
  ext_entries (entries_ofList m.distinct)

/-! ## Erasing -/

/-- What is left without a name is found as before, and under the name nothing is. -/
theorem lookup_filter_ne (l : List (String × α)) (name other : String) :
    (l.filter fun e => e.1 != name).lookup other
      = if other = name then none else l.lookup other := by
  induction l with
  | nil => simp
  | cons e rest ih =>
    obtain ⟨n, b⟩ := e
    -- the first entry goes or stays; in either case the names compared are the first, the erased
    -- and the one looked for
    by_cases hn : n = name
    · subst hn
      by_cases h : other = n
      · subst h
        rw [if_pos rfl] at ih
        simpa using ih
      · have hne : (other == n) = false := by simpa using h
        simp [ih, h, List.lookup_cons, hne]
    · by_cases h : other = n
      · subst h
        simp [hn]
      · have hne : (other == n) = false := by simpa using h
        simp [hn, List.lookup_cons, hne, ih]

/-- Erasing a name removes what was found under it and nothing else. -/
theorem find?_erase (m : Named α) (name other : String) :
    (m.erase name).find? other = if other = name then none else m.find? other :=
  lookup_filter_ne m.entries name other

theorem names_erase (m : Named α) (name : String) :
    (m.erase name).names = m.names.filter (· != name) :=
  (List.filter_map (f := Prod.fst) (p := (· != name)) (l := m.entries)).symm

/-- Erasing a name that is not there changes nothing. -/
theorem erase_of_find?_eq_none {m : Named α} {name : String} (h : m.find? name = none) :
    m.erase name = m := by
  refine ext_entries (List.filter_eq_self.mpr fun e he => ?_)
  rw [bne_iff_ne]
  rintro rfl
  rw [(m.mem_entries_iff e.1 e.2).mp he] at h
  cases h

/-- Erasing a name undoes an insertion under it. -/
theorem erase_insert (m : Named α) (name : String) (a : α) :
    (m.insert name a).erase name = m.erase name := by
  have hentries : ∀ l : List (String × α),
      (insertEntry name a l).filter (fun e => e.1 != name) = l.filter fun e => e.1 != name := by
    intro l
    induction l with
    | nil => simp [insertEntry]
    | cons e rest ih =>
      by_cases h : e.1 = name <;> simp [insertEntry, h, ih]
  exact ext_entries (hentries m.entries)

/-! ## Changing values -/

theorem names_map (f : String → α → β) (m : Named α) : (m.map f).names = m.names := by
  unfold names map
  rw [List.map_map]
  rfl

theorem lookup_map (f : String → α → β) (l : List (String × α)) (name : String) :
    (l.map fun e => (e.1, f e.1 e.2)).lookup name = (l.lookup name).map (f name) := by
  induction l with
  | nil => rfl
  | cons e rest ih =>
    obtain ⟨n, b⟩ := e
    by_cases h : name = n
    · subst h
      simp
    · have hne : (name == n) = false := by simpa using h
      simp [List.lookup_cons, hne, ih]

/-- Under a name is found what the change makes of the value found before. -/
theorem find?_map (f : String → α → β) (m : Named α) (name : String) :
    (m.map f).find? name = (m.find? name).map (f name) :=
  lookup_map f m.entries name

theorem map_insertEntry (f : String → α → β) (name : String) (a : α) (l : List (String × α)) :
    (insertEntry name a l).map (fun e => (e.1, f e.1 e.2))
      = insertEntry name (f name a) (l.map fun e => (e.1, f e.1 e.2)) := by
  induction l with
  | nil => rfl
  | cons e rest ih =>
    obtain ⟨n, b⟩ := e
    by_cases h : n = name
    · subst h
      simp [insertEntry]
    · simp [insertEntry, h, ih]

@[simp] theorem map_id (m : Named α) : (m.map fun _ => id) = m :=
  ext_entries (List.map_id m.entries)

theorem map_insert (f : String → α → β) (m : Named α) (name : String) (a : α) :
    (m.insert name a).map f = (m.map f).insert name (f name a) :=
  ext_entries (map_insertEntry f name a m.entries)

/-- Values can be changed before or after a container is filled with them. Induction on the entries,
for any container to start from. -/
theorem map_ofList (f : String → α → β) (l : List (String × α)) :
    (ofList l).map f = ofList (l.map fun e => (e.1, f e.1 e.2)) := by
  have hfold : ∀ (l : List (String × α)) (m : Named α),
      (l.foldl (fun m e => m.insert e.1 e.2) m).map f
        = (l.map fun e => (e.1, f e.1 e.2)).foldl (fun m e => m.insert e.1 e.2) (m.map f) := by
    intro l
    induction l with
    | nil => exact fun m => rfl
    | cons e rest ih =>
      intro m
      rw [List.foldl_cons, ih, map_insert]
      rfl
  exact hfold l empty

theorem map_erase (f : String → α → β) (m : Named α) (name : String) :
    (m.erase name).map f = (m.map f).erase name := by
  apply ext_entries
  show (m.entries.filter fun e => e.1 != name).map (fun e => (e.1, f e.1 e.2))
    = (m.entries.map fun e => (e.1, f e.1 e.2)).filter fun e => e.1 != name
  rw [List.filter_map]
  rfl

/-! ## Related values -/

/-- The names are the same in the same order, and what stands under them is related. -/
def Related (R : α → β → Prop) (m : Named α) (n : Named β) : Prop :=
  List.Forall₂ (fun e f => e.1 = f.1 ∧ R e.2 f.2) m.entries n.entries

theorem map_fst_eq_of_forall₂ {R : α → β → Prop} {l : List (String × α)} {k : List (String × β)}
    (h : List.Forall₂ (fun e f => e.1 = f.1 ∧ R e.2 f.2) l k) : l.map Prod.fst = k.map Prod.fst := by
  induction h with
  | nil => rfl
  | cons hhead _ ih => rw [List.map_cons, List.map_cons, hhead.1, ih]

/-- Entries that are related to those of a container one by one fill a related container. -/
theorem related_ofList {R : α → β → Prop} {m : Named α} {l : List (String × β)}
    (h : List.Forall₂ (fun e f => e.1 = f.1 ∧ R e.2 f.2) m.entries l) :
    m.Related R (ofList l) := by
  have hdistinct : (l.map Prod.fst).Nodup := map_fst_eq_of_forall₂ h ▸ m.distinct
  unfold Related
  rw [entries_ofList hdistinct]
  exact h

/-- Under a name there is nothing in either container, or related values. -/
theorem Related.find? {R : α → β → Prop} {m : Named α} {n : Named β} (h : m.Related R n)
    (name : String) : Option.Rel R (m.find? name) (n.find? name) := by
  have hlookup : ∀ {l : List (String × α)} {k : List (String × β)},
      List.Forall₂ (fun e f => e.1 = f.1 ∧ R e.2 f.2) l k →
        Option.Rel R (l.lookup name) (k.lookup name) := by
    intro l k hlk
    induction hlk with
    | nil => exact .none
    | @cons e f _ _ hhead _ ih =>
        rw [List.lookup_cons, List.lookup_cons, hhead.1]
        cases name == f.1 with
        | true => exact .some hhead.2
        | false => exact ih
  exact hlookup h

/-- What stands in the second container is related to something in the first. -/
theorem Related.exists_of_mem {R : α → β → Prop} {m : Named α} {n : Named β} (h : m.Related R n)
    {f : String × β} (hf : f ∈ n.entries) : ∃ a, (f.1, a) ∈ m.entries ∧ R a f.2 := by
  have hfound := h.find? f.1
  rw [(n.mem_entries_iff f.1 f.2).mp hf] at hfound
  cases ha : m.find? f.1 with
  | none =>
      rw [ha] at hfound
      cases hfound
  | some a =>
      rw [ha] at hfound
      cases hfound with
      | some hR => exact ⟨a, (m.mem_entries_iff f.1 a).mpr ha, hR⟩

/-- Changing the values succeeds if it does for each of them, each in its place. -/
theorem mapExcept_succeeds {ε α β : Type} {f : α → Except ε β} {m : Named α}
    (hf : ∀ e ∈ m.entries, ∃ b, f e.2 = .ok b) :
    ∃ n, m.mapExcept (fun _ => f) = .ok n ∧ m.Related (fun a b => f a = .ok b) n := by
  have hall : ∀ e ∈ m.entries, ∃ g : String × β,
      (do let v ← f e.2; pure (e.1, v) : Except ε (String × β)) = .ok g := by
    intro e he
    obtain ⟨b, hb⟩ := hf e he
    exact ⟨(e.1, b), by rw [hb]; rfl⟩
  obtain ⟨l, hl⟩ := mapM_succeeds_iff.mpr hall
  refine ⟨ofList l, bind_eq_ok.mpr ⟨l, hl, rfl⟩, related_ofList ?_⟩
  refine (mapM_eq_ok.mp hl).imp fun e g h => ?_
  obtain ⟨b, hb, h⟩ := bind_eq_ok.mp h
  rw [pure_eq_ok] at h
  exact h ▸ ⟨rfl, hb⟩

theorem Related.names_eq {R : α → β → Prop} {m : Named α} {n : Named β} (h : m.Related R n) :
    m.names = n.names :=
  map_fst_eq_of_forall₂ h

end Rostering.Named
