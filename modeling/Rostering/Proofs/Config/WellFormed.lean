import Rostering.Proofs.Config.Fields
import Rostering.Proofs.Patch.Change

/-!
# Reading and patching give well-formed specifications

## The architecture

Well-formedness is an invariant of everything that makes specifications.

* **`Config.index_wellFormed`**, **`source_wellFormed`**, **`parameter_wellFormed`**,
  **`override_wellFormed`** — each reader of a part checks what `WellFormed` says of the part, one
  case for each declared type.
* **`Config.decode_wellFormed`** — so a whole configuration that is accepted is well-formed.
* **`Patch.apply_wellFormed`** — a patch replaces one entry by something that was read or that
  passed the same check.
* **`Patch.applyAll_wellFormed`** — hence so does any sequence of patches, by induction.
-/

namespace Rostering

namespace Config

/-! ## Parts -/

/-- A list whose members are all texts is the list of these texts. Induction on the members. -/
theorem texts?_eq_some {v : Value} {members : List String} (hv : texts? v = some members) :
    v = .list (members.map .str) := by
  unfold texts? at hv
  split at hv
  · next items =>
      congr 1
      induction items generalizing members with
      | nil =>
          rw [List.mapM_nil] at hv
          cases hv
          rfl
      | cons item items ih =>
          rw [List.mapM_cons] at hv
          cases item with
          | str s =>
              obtain ⟨first, hfirst, hv⟩ := Option.bind_eq_some_iff.mp hv
              obtain ⟨rest, hrest, hv⟩ := Option.bind_eq_some_iff.mp hv
              cases hfirst
              cases hv
              rw [List.map_cons, ← ih hrest]
          | _ => cases hv
  · cases hv

theorem texts?_ofTexts (names : List String) : texts? (.list (names.map .str)) = some names := by
  unfold texts?
  simp only [List.mapM_map]
  induction names with
  | nil => rfl
  | cons name names ih =>
      rw [List.mapM_cons, ih]
      rfl

/-- A range that is read runs forward: the reader has compared its ends. -/
theorem range_wellFormed {es : Entries} {path : String} {i : Index} (hi : range es path = .ok i) :
    i.WellFormed := by
  unfold range at hi
  obtain ⟨_, -, hi⟩ := bind_eq_ok.mp hi
  obtain ⟨first, -, hi⟩ := bind_eq_ok.mp hi
  obtain ⟨_, -, hi⟩ := bind_eq_ok.mp hi
  obtain ⟨last, -, hi⟩ := bind_eq_ok.mp hi
  split at hi
  · next hforward =>
      rw [pure_eq_ok] at hi
      rw [← hi]
      exact hforward
  · exact absurd (asConfig_eq_ok.mp hi) throw_ne_ok

/-- A list that is read has members, and they are texts. An empty list counts as a field that is
missing. -/
theorem listing_wellFormed {es : Entries} {path : String} {i : Index}
    (hi : listing es path = .ok i) : i.WellFormed := by
  unfold listing at hi
  obtain ⟨values, hvalues, hi⟩ := bind_eq_ok.mp hi
  split at hi
  · next members hmembers =>
      rw [pure_eq_ok] at hi
      rw [← hi]
      have hgiven := (required_eq_ok.mp hvalues).2
      rw [texts?_eq_some hmembers] at hgiven
      refine ⟨members, ?_, rfl⟩
      -- an empty list is as good as none, and none was accepted
      intro hnone
      rw [hnone] at hgiven
      cases hgiven
  · exact absurd hi throw_ne_ok

/-- An index that was read is a forward range of dates or a list of texts. -/
theorem index_wellFormed {v : Value} {path : String} {i : Index} (hi : index v path = .ok i) :
    i.WellFormed := by
  unfold index at hi
  obtain ⟨es, -, hi⟩ := bind_eq_ok.mp hi
  split at hi
  · exact range_wellFormed (reportValues_eq_ok.mp hi)
  · exact listing_wellFormed (asConfig_eq_ok.mp hi)
  · exact absurd hi rejectType_ne_ok

/-- The text of a field that has to be there is not empty. -/
theorem ne_empty_of_requiredText {es : Entries} {key path s : String}
    (hs : requiredText es key path = .ok s) : s ≠ "" := by
  obtain ⟨hgiven, hshown⟩ := requiredText_eq_ok.mp hs
  rw [← (textOf_eq_ok.mp hshown).2]
  exact Value.shown_ne_empty hgiven

/-- A source that is read names its file, its url or its function by a text that is not empty,
whatever the value was that it shows. -/
theorem source_wellFormed {v : Value} {path : String} {s : Source} (hs : source v path = .ok s) :
    s.WellFormed := by
  unfold source at hs
  obtain ⟨es, -, hs⟩ := bind_eq_ok.mp hs
  split at hs
  · -- rows of text
    obtain ⟨file, hfile, hs⟩ := bind_eq_ok.mp hs
    obtain ⟨options, -, hs⟩ := bind_eq_ok.mp hs
    rw [pure_eq_ok] at hs
    rw [← hs]
    exact ne_empty_of_requiredText hfile
  · -- a document
    obtain ⟨file, hfile, hs⟩ := bind_eq_ok.mp hs
    obtain ⟨steps, -, hs⟩ := bind_eq_ok.mp hs
    rw [pure_eq_ok] at hs
    rw [← hs]
    exact ne_empty_of_requiredText hfile
  · -- the network
    obtain ⟨_, -, hs⟩ := bind_eq_ok.mp hs
    obtain ⟨url, hurl, hs⟩ := bind_eq_ok.mp hs
    obtain ⟨headers, -, hs⟩ := bind_eq_ok.mp hs
    obtain ⟨transform, htransform, hs⟩ := bind_eq_ok.mp hs
    rw [pure_eq_ok] at hs
    rw [← hs]
    refine ⟨ne_empty_of_requiredText hurl, ?_⟩
    rcases optionalText_eq_ok.mp htransform with ⟨-, rfl⟩ | ⟨htrue, name, hname, rfl⟩
    · intro hnone
      cases hnone
    · intro hempty
      refine Value.shown_ne_empty (Value.isAbsent_of_isTrue htrue) ?_
      exact (textOf_eq_ok.mp hname).2.trans (Option.some.inj hempty)
  · -- a function
    obtain ⟨args, -, hs⟩ := bind_eq_ok.mp hs
    obtain ⟨name, hname, hs⟩ := bind_eq_ok.mp hs
    rw [pure_eq_ok] at hs
    rw [← hs]
    exact ne_empty_of_requiredText hname
  · -- data that are written out
    rw [pure_eq_ok] at hs
    rw [← hs]
    trivial
  · exact absurd hs rejectType_ne_ok

theorem requiredSource_wellFormed {es : Entries} {path : String} {s : Source}
    (hs : requiredSource es path = .ok s) : s.WellFormed := by
  obtain ⟨_, -, hs⟩ := bind_eq_ok.mp hs
  exact source_wellFormed hs

theorem tableParameter_wellFormed {es : Entries} {path : String} {p : Parameter}
    (hp : tableParameter es path = .ok p) : p.WellFormed := by
  unfold tableParameter at hp
  obtain ⟨_, hgiven, hp⟩ := bind_eq_ok.mp hp
  split at hp
  · next columns =>
      obtain ⟨s, hs, hp⟩ := bind_eq_ok.mp hp
      obtain ⟨schema, hschema, hp⟩ := bind_eq_ok.mp hp
      rw [pure_eq_ok] at hp
      rw [← hp]
      refine ⟨?_, requiredSource_wellFormed hs⟩
      rintro rfl
      -- without texts there were no columns either, so the field would count as missing
      have hnone := List.forall₂_nil_right_iff.mp (mapM_eq_ok.mp hschema)
      rw [hnone] at hgiven
      cases (required_eq_ok.mp (asConfig_eq_ok.mp hgiven)).2
  · exact absurd (asConfig_eq_ok.mp hp) throw_ne_ok

theorem mappingParameter_wellFormed {es : Entries} {path : String} {p : Parameter}
    (hp : mappingParameter es path = .ok p) : p.WellFormed := by
  unfold mappingParameter at hp
  obtain ⟨v, hgiven, hp⟩ := bind_eq_ok.mp hp
  obtain ⟨s, hs, hp⟩ := bind_eq_ok.mp hp
  obtain ⟨key, hkey, hp⟩ := bind_eq_ok.mp hp
  rw [pure_eq_ok] at hp
  rw [← hp]
  refine ⟨?_, requiredSource_wellFormed hs⟩
  rw [← (textOf_eq_ok.mp hkey).2]
  exact Value.shown_ne_empty (required_eq_ok.mp (asConfig_eq_ok.mp hgiven)).2

theorem scalarParameter_wellFormed {es : Entries} {path : String} {p : Parameter}
    (hp : scalarParameter es path = .ok p) : p.WellFormed := by
  unfold scalarParameter at hp
  split at hp
  · exact absurd (asConfig_eq_ok.mp hp) throw_ne_ok
  · obtain ⟨type, -, hp⟩ := bind_eq_ok.mp hp
    obtain ⟨t, -, hholds, rfl⟩ :=
      Parameter.ofScalar_eq_ok (mapError_eq_ok.mp (asConfig_eq_ok.mp hp))
    exact hholds

/-- A parameter that was read has columns, a key, or a value of its type. -/
theorem parameter_wellFormed {v : Value} {path : String} {p : Parameter}
    (hp : parameter v path = .ok p) : p.WellFormed := by
  unfold parameter at hp
  obtain ⟨es, -, hp⟩ := bind_eq_ok.mp hp
  split at hp
  · exact tableParameter_wellFormed (reportValues_eq_ok.mp hp)
  · exact mappingParameter_wellFormed (reportValues_eq_ok.mp hp)
  · exact scalarParameter_wellFormed (reportValues_eq_ok.mp hp)
  · exact absurd hp rejectType_ne_ok

theorem override_wellFormed {v : Value} {path : String} {o : Override}
    (ho : override v path = .ok o) : o.WellFormed := by
  unfold override at ho
  obtain ⟨es, -, ho⟩ := bind_eq_ok.mp ho
  obtain ⟨v, hgiven, ho⟩ := bind_eq_ok.mp ho
  obtain ⟨_, -, ho⟩ := bind_eq_ok.mp ho
  obtain ⟨_, -, ho⟩ := bind_eq_ok.mp ho
  obtain ⟨target, htarget, ho⟩ := bind_eq_ok.mp ho
  obtain ⟨args, -, ho⟩ := bind_eq_ok.mp ho
  rw [pure_eq_ok] at ho
  rw [← ho]
  show target ≠ ""
  rw [← (textOf_eq_ok.mp htarget).2]
  exact Value.shown_ne_empty (required_eq_ok.mp (asConfig_eq_ok.mp hgiven)).2

/-- Overrides that were read name their targets. Induction on what is still to be read. -/
theorem overridesFrom_wellFormed {path : String} (vs : List Value) :
    ∀ {position : Nat} {l : List Override}, overridesFrom path position vs = .ok l →
      ∀ o ∈ l, o.WellFormed := by
  induction vs with
  | nil =>
      intro position l hl o ho
      rw [overridesFrom, pure_eq_ok] at hl
      rw [← hl] at ho
      exact absurd ho List.not_mem_nil
  | cons v vs ih =>
      intro position l hl o ho
      rw [overridesFrom] at hl
      obtain ⟨first, hfirst, hl⟩ := bind_eq_ok.mp hl
      obtain ⟨rest, hrest, hl⟩ := bind_eq_ok.mp hl
      rw [pure_eq_ok] at hl
      rw [← hl] at ho
      -- the position only matters to the path of a failure
      cases List.mem_cons.mp ho with
      | inl heq => exact heq ▸ override_wellFormed hfirst
      | inr hmem => exact ih hrest o hmem

theorem overrideList_wellFormed {v : Value} {path : String} {l : List Override}
    (hl : overrideList v path = .ok l) : ∀ o ∈ l, o.WellFormed := by
  unfold overrideList at hl
  split at hl
  · exact overridesFrom_wellFormed _ hl
  · exact absurd (asConfig_eq_ok.mp hl) throw_ne_ok

/-! ## Whole configurations -/

/-- The name of a template that is read is not blank. -/
theorem template_eq_ok {es : Entries} {name : String} (hname : template es = .ok name) :
    (Text.stripped name).isEmpty = false := by
  unfold template at hname
  split at hname
  · exact absurd hname throw_ne_ok
  · split at hname
    · exact absurd hname throw_ne_ok
    · next hblank =>
        rw [pure_eq_ok] at hname
        rw [← hname]
        exact Bool.eq_false_iff.mpr hblank
  · exact absurd hname throw_ne_ok

/-- No phase is unknown exactly if all are known. -/
theorem unknownPhase?_eq_none {overrides : Named (List Override)} :
    unknownPhase? overrides = none ↔ ∀ e ∈ overrides.entries, e.1 ∈ overridePhases := by
  unfold unknownPhase? Named.names
  rw [List.find?_eq_none]
  simp

/-- A configuration that is accepted is well-formed. It holds at the start of every session, and
each revision keeps it. -/
theorem decode_wellFormed {es : Entries} {s : Specification} (hs : decode es = .ok s) :
    s.WellFormed := by
  unfold decode at hs
  obtain ⟨name, hname, hs⟩ := bind_eq_ok.mp hs
  obtain ⟨_, -, hs⟩ := bind_eq_ok.mp hs
  -- the entries of the four sections, and then what is read of them
  obtain ⟨_, -, hs⟩ := bind_eq_ok.mp hs
  obtain ⟨_, -, hs⟩ := bind_eq_ok.mp hs
  obtain ⟨_, -, hs⟩ := bind_eq_ok.mp hs
  obtain ⟨_, -, hs⟩ := bind_eq_ok.mp hs
  obtain ⟨indexes, hindexes, hs⟩ := bind_eq_ok.mp hs
  obtain ⟨parameters, hparameters, hs⟩ := bind_eq_ok.mp hs
  obtain ⟨options, -, hs⟩ := bind_eq_ok.mp hs
  obtain ⟨overrides, hoverrides, hs⟩ := bind_eq_ok.mp hs
  split at hs
  · exact absurd (asConfig_eq_ok.mp hs) throw_ne_ok
  · next hphases =>
      rw [pure_eq_ok] at hs
      rw [← hs]
      refine ⟨template_eq_ok (asConfig_eq_ok.mp hname), ?_, ?_, ?_⟩
      · intro e he
        obtain ⟨v, hv⟩ := exists_of_mem_namedSection hindexes he
        exact index_wellFormed hv
      · intro e he
        obtain ⟨v, hv⟩ := exists_of_mem_namedSection hparameters he
        exact parameter_wellFormed hv
      · intro e he
        obtain ⟨v, hv⟩ := exists_of_mem_namedSection hoverrides he
        exact ⟨unknownPhase?_eq_none.mp hphases e he,
          overrideList_wellFormed hv⟩

/-! ## Documents that hold their own data -/

/-- The document of an index whose members are listed. -/
def listedMembers (members : List String) : Value :=
  .ofFields [("type", .str "list"), ("values", .ofTexts members)]

/-- The document of a table whose rows stand in it as they are, under columns of these names. -/
def inlineTable (columns : List String) (rows : List Value) : Value :=
  .ofFields [("type", .str "table"), ("schema", .ofTexts columns),
    ("source", .ofFields [("type", .str "literal"), ("data", .list rows)])]

end Config

/-! ## Patches -/

namespace Patch

/-- New data leave the declaration of a parameter as it was; a new scalar is checked again. -/
theorem Updates.wellFormed {p : Patch} {q r : Parameter} (h : p.Updates q r)
    (hq : q.WellFormed) : r.WellFormed := by
  cases h with
  | table => exact hq
  | mapping => exact hq
  | scalar hholds => exact hholds

/-- A patch that succeeds replaces one entry, by something that passes the checks of its section. -/
theorem apply_wellFormed {p : Patch} {s t : Specification} (hs : s.WellFormed)
    (ht : p.apply s = .ok t) : t.WellFormed := by
  obtain ⟨c, hc, rfl⟩ := changes_of_apply ht
  cases hc with
  | parameter _ hq hr =>
      -- a parameter has to be there
      have hold := hs.parameters _ ((Named.mem_entries_iff _ _ _).mpr hq)
      exact hs.withParameter _ (hr.wellFormed hold)
  | option _ => exact hs.withOption _ p.value
  | index _ hi => exact hs.withIndex _ (Config.index_wellFormed hi)
  | overrides _ hphase hl => exact hs.withOverrides hphase (Config.overrideList_wellFormed hl)

/-- Patches that succeed one after the other keep a specification well-formed. Induction on the
patches that are left. -/
theorem applyAll_wellFormed (ps : List Patch) :
    ∀ {s t : Specification}, s.WellFormed → applyAll ps s = .ok t → t.WellFormed := by
  induction ps with
  | nil =>
      intro s t hs ht
      rw [applyAll, pure_eq_ok] at ht
      exact ht ▸ hs
  | cons p ps ih =>
      intro s t hs ht
      rw [applyAll] at ht
      split at ht
      · next u hu => exact ih (apply_wellFormed hs hu) ht
      · exact absurd ht throw_ne_ok

end Patch

end Rostering
