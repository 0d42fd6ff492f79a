import Rostering.Proofs.KeyPath.Numeral
import Rostering.Proofs.Loader.Failures

/-!
# Descending along key paths

Where a key path leads is said without the descent (`KeyPath.Leads`), one step after the other, and
the descent is shown to find out just that: the node to which the path leads
(`KeyPath.descend_eq_ok`), or how far it led (`KeyPath.descend_of_isFirstMiss`), or a fault at a
numeral that is no number (`KeyPath.descend_eq_fault`).

## The architecture

* **`KeyPath.Denotes`** — what one step denotes, with `KeyPath.step_eq_some` and
  `KeyPath.step_eq_error` for the step that is taken.
* **`KeyPath.Leads`**, **`KeyPath.IsFirstMiss`**, **`KeyPath.Breaks`** — what can be said of a path.
* **`KeyPath.descend_append`** — behind a part that leads to a node the descent goes on from there.
* **`KeyPath.descend_ends`** — the three ways in which a descent can end, each with its evidence.
-/

namespace Rostering.KeyPath

/-! ## What a step denotes -/

/-- The place that a step names in a list: digits count from the start, and behind one minus sign from
the end. The integer is negative for places that are counted from the end. -/
inductive NamesPlace (name : String) : Int → Prop
  | fromStart {digits : List Char} (hname : IsNumeral name 0 digits)
      (hfew : digits.length ≤ maxIntegerDigits) : NamesPlace name (digitsValue digits)
  | fromEnd {digits : List Char} (hname : IsNumeral name 1 digits)
      (hfew : digits.length ≤ maxIntegerDigits) : NamesPlace name (-digitsValue digits)

/-- The step is a numeral that is no number: it has two signs or more, or too many digits. -/
inductive IsUnreadable (name : String) : Prop
  | signs {signs : Nat} {digits : List Char} (hname : IsNumeral name signs digits)
      (htwo : 2 ≤ signs)
  | digits {signs : Nat} {digits : List Char} (hname : IsNumeral name signs digits)
      (hmany : maxIntegerDigits < digits.length)

/-- The node that a step denotes, seen from a node: in a mapping the value of the key, in a list the
item at the place, and nothing elsewhere. -/
inductive Denotes (name : String) : Value → Value → Prop
  | field {es : Entries} {w : Value} (hfield : Entries.field? es name = some w) :
      Denotes name (.map es) w
  | item {items : List Value} {place : Int} {w : Value} (hplace : NamesPlace name place)
      (hstart : 0 ≤ place) (hitem : items[place.toNat]? = some w) : Denotes name (.list items) w
  | itemFromEnd {items : List Value} {place : Int} {w : Value} (hplace : NamesPlace name place)
      (hend : place < 0) (hitem : items.reverse[(-place - 1).toNat]? = some w) :
      Denotes name (.list items) w

/-- An item is found at a place that is counted from the start, or from the end if the place is
negative. -/
theorem itemAt?_eq_some {items : List Value} {place : Int} {w : Value} :
    itemAt? items place = some w ↔ 0 ≤ place ∧ items[place.toNat]? = some w
      ∨ place < 0 ∧ items.reverse[(-place - 1).toNat]? = some w := by
  unfold itemAt?
  split
  · next hstart =>
      simp only [hstart, true_and, not_lt.mpr hstart, false_and, or_false]
  · next hend =>
      have hneg : place < 0 := not_le.mp hend
      simp only [hend, false_and, false_or, hneg, true_and]
      split
      · next hwithin =>
          -- counted from the end, the place is one among the items in reverse
          have hlt : (-place - 1).toNat < items.length := by
            simp only [Int.ofNat_eq_natCast] at hwithin
            omega
          rw [List.getElem?_reverse hlt]
          have hplace : items.length - 1 - (-place - 1).toNat
              = (place + Int.ofNat items.length).toNat := by
            simp only [Int.ofNat_eq_natCast] at hwithin ⊢
            omega
          rw [hplace]
      · next hbeyond =>
          have hge : items.reverse.length ≤ (-place - 1).toNat := by
            rw [List.length_reverse]
            simp only [Int.ofNat_eq_natCast] at hbeyond
            omega
          rw [List.getElem?_eq_none hge]

/-- What a step of ASCII does at a list: it names a place, or it is a numeral that is no number, or it
is no numeral at all. -/
theorem step_list {name : String} (hname : Access.isAscii name = true) (items : List Value) :
    (∃ place, NamesPlace name place ∧ step name (.list items) = .ok (itemAt? items place))
      ∨ (IsUnreadable name ∧ step name (.list items) = .error .malformed)
      ∨ ((∀ signs digits, ¬IsNumeral name signs digits) ∧ step name (.list items) = .ok none) := by
  by_cases hlooks : looksNumeric name = true
  · obtain ⟨signs, digits, h⟩ := (looksNumeric_iff hname).mp hlooks
    have hnumber := h.integerOfText?_eq
    by_cases hno : 2 ≤ signs ∨ maxIntegerDigits < digits.length
    · rw [if_pos hno] at hnumber
      refine Or.inr (Or.inl ⟨hno.elim (.signs h) (.digits h), ?_⟩)
      simp only [step, hlooks, if_true, hnumber]
      rfl
    · rw [if_neg hno] at hnumber
      obtain ⟨hone, hfew⟩ := not_or.mp hno
      refine Or.inl ⟨_, ?_, by simp only [step, hlooks, if_true, hnumber]; rfl⟩
      -- a numeral that is a number has one sign or none
      match signs, h with
      | 0, h => exact .fromStart h (not_lt.mp hfew)
      | 1, h => exact .fromEnd h (not_lt.mp hfew)
      | k + 2, h => omega
  · refine Or.inr (Or.inr ⟨fun signs digits h => hlooks ((looksNumeric_iff hname).mpr ⟨_, _, h⟩), ?_⟩)
    simp only [step, hlooks]
    rfl

/-- A step names one place at most, and none if it is unreadable. -/
theorem NamesPlace.exists_numeral {name : String} {place : Int} (h : NamesPlace name place) :
    ∃ signs digits, IsNumeral name signs digits ∧ signs < 2 ∧ digits.length ≤ maxIntegerDigits
      ∧ place = if signs = 0 then (digitsValue digits : Int) else -digitsValue digits := by
  cases h with
  | fromStart hname hfew => exact ⟨0, _, hname, by decide, hfew, rfl⟩
  | fromEnd hname hfew => exact ⟨1, _, hname, by decide, hfew, rfl⟩

theorem NamesPlace.unique {name : String} {place place' : Int} (h : NamesPlace name place)
    (h' : NamesPlace name place') : place = place' := by
  obtain ⟨signs, digits, hname, -, -, rfl⟩ := h.exists_numeral
  obtain ⟨signs', digits', hname', -, -, rfl⟩ := h'.exists_numeral
  obtain ⟨rfl, rfl⟩ := hname.unique hname'
  rfl

theorem NamesPlace.not_isUnreadable {name : String} {place : Int} (h : NamesPlace name place) :
    ¬IsUnreadable name := by
  obtain ⟨signs, digits, hname, hone, hfew, -⟩ := h.exists_numeral
  rintro (⟨hname', htwo⟩ | ⟨hname', hmany⟩)
  all_goals
    obtain ⟨rfl, rfl⟩ := hname.unique hname'
    omega

/-- A step of ASCII gives the node that it denotes. At a mapping it is the field, at a list the item
at the place that the numeral denotes, from the end if that is negative. -/
theorem step_eq_some {name : String} (hname : Access.isAscii name = true) {v w : Value} :
    step name v = .ok (some w) ↔ Denotes name v w := by
  constructor
  · intro h
    cases v with
    | map es => exact .field (Except.ok.inj h)
    | list items =>
        rcases step_list hname items with ⟨place, hplace, hstep⟩ | ⟨-, hstep⟩ | ⟨-, hstep⟩
        · rw [hstep] at h
          rcases itemAt?_eq_some.mp (Except.ok.inj h) with ⟨hstart, hitem⟩ | ⟨hend, hitem⟩
          · exact .item hplace hstart hitem
          · exact .itemFromEnd hplace hend hitem
        · rw [hstep] at h
          cases h
        · rw [hstep] at h
          cases h
    | _ => cases h
  · intro h
    -- at a list the three readings of a step exclude each other
    have hlist : ∀ {items : List Value} {place : Int}, NamesPlace name place →
        itemAt? items place = some w → step name (.list items) = .ok (some w) := by
      intro items place hplace hitem
      rcases step_list hname items with ⟨place', hplace', hstep⟩ | ⟨hno, -⟩ | ⟨hno, -⟩
      · rw [hstep, hplace'.unique hplace, hitem]
      · exact absurd hno hplace.not_isUnreadable
      · obtain ⟨signs, digits, hnumeral, -⟩ := hplace.exists_numeral
        exact absurd hnumeral (hno signs digits)
    cases h with
    | field hfield => exact congrArg Except.ok hfield
    | item hplace hstart hitem => exact hlist hplace (itemAt?_eq_some.mpr (Or.inl ⟨hstart, hitem⟩))
    | itemFromEnd hplace hend hitem =>
        exact hlist hplace (itemAt?_eq_some.mpr (Or.inr ⟨hend, hitem⟩))

/-- It fails only at a list, and there exactly if it is a numeral that is no number. Every other
step that leads nowhere is a missing one, which is told apart from a fault. -/
theorem step_eq_error {name : String} (hname : Access.isAscii name = true) {v : Value} {f : Fault} :
    step name v = .error f ↔ f = .malformed ∧ ∃ items, v = .list items ∧ IsUnreadable name := by
  constructor
  · intro h
    refine ⟨(step_fails name v f h).1, ?_⟩
    -- mappings and all other values answer every step, if only by saying that there is nothing
    cases v with
    | list items =>
        rcases step_list hname items with ⟨place, -, hstep⟩ | ⟨hno, -⟩ | ⟨-, hstep⟩
        · rw [hstep] at h
          cases h
        · exact ⟨items, rfl, hno⟩
        · rw [hstep] at h
          cases h
    | _ => cases h
  · rintro ⟨rfl, items, rfl, hno⟩
    rcases step_list hname items with ⟨place, hplace, -⟩ | ⟨-, hstep⟩ | ⟨hnone, -⟩
    · exact absurd hno hplace.not_isUnreadable
    · exact hstep
    · cases hno with
      | signs hnumeral _ => exact absurd hnumeral (hnone _ _)
      | digits hnumeral _ => exact absurd hnumeral (hnone _ _)

/-! ## Where a path leads -/

/-- A path leads from a node to a node, one step after the other. -/
inductive Leads : List String → Value → Value → Prop
  | here (v : Value) : Leads [] v v
  | step {name : String} {names : List String} {v w x : Value} (hname : Denotes name v w)
      (hrest : Leads names w x) : Leads (name :: names) v x

/-- The shortest part of a path, from its start, that leads to no node. -/
structure IsFirstMiss (p : List String) (v : Value) (walked : List String) : Prop where
  within : walked <+: p
  misses : ∀ w, ¬Leads walked v w
  first : ∀ part, part <+: p → part.length < walked.length → ∃ w, Leads part v w

/-- The path leads to a list and goes on with a numeral that is no number. -/
def Breaks (p : List String) (v : Value) : Prop :=
  ∃ before name after items, p = before ++ name :: after ∧ Leads before v (.list items)
    ∧ IsUnreadable name

def IsAscii (p : List String) : Prop := ∀ name ∈ p, Access.isAscii name = true

/-- A path in two parts leads where the second part leads from where the first one does. -/
theorem leads_append {p q : List String} {v x : Value} :
    Leads (p ++ q) v x ↔ ∃ w, Leads p v w ∧ Leads q w x := by
  constructor
  · intro h
    induction p generalizing v with
    | nil => exact ⟨v, .here v, h⟩
    | cons name p ih =>
        cases h with
        | step hname hrest =>
            obtain ⟨w, hp, hq⟩ := ih hrest
            exact ⟨w, .step hname hp, hq⟩
  · rintro ⟨w, hp, hq⟩
    induction hp with
    | here v => exact hq
    | step hname _ ih => exact .step hname (ih hq)

/-! ## Descents along paths of ASCII -/

/-- A descent that has ended early has ended for all further steps. Induction on the steps. -/
theorem descendFrom_append_of_error {p : List String} {stop : Stop} (q : List String) :
    ∀ {tried : Nat} {v : Value}, descendFrom tried p v = .error stop →
      descendFrom tried (p ++ q) v = .error stop := by
  induction p with
  | nil => exact fun h => absurd h pure_ne_error
  | cons name p ih =>
      intro tried v h
      rw [descendFrom] at h
      rw [List.cons_append, descendFrom]
      cases hstep : step name v with
      | error f =>
          rw [hstep] at h
          exact h
      | ok found =>
          rw [hstep] at h
          -- nothing found is an end as well, and only a node is gone on from
          cases found with
          | none => exact h
          | some u => exact ih h

section

variable {p q : List String} {v w : Value}

/-- Counting from a later step shifts the count. Induction on the steps. -/
theorem descendFrom_eq (tried : Nat) (p : List String) (v : Value) :
    descendFrom tried p v = (descend p v).mapError fun
      | .missing n => .missing (tried + n)
      | .fault f => .fault f := by
  -- more general, so that the count can change along the way
  have hshift : ∀ (p : List String) (v : Value) (a b : Nat),
      descendFrom (a + b) p v = (descendFrom b p v).mapError fun
        | .missing n => .missing (a + n)
        | .fault f => .fault f := by
    intro p
    induction p with
    | nil => exact fun _ _ _ => rfl
    | cons name p ih =>
        intro v a b
        rw [descendFrom, descendFrom]
        cases step name v with
        | error f => rfl
        | ok found =>
            cases found with
            | none => rfl
            | some w => exact ih w a (b + 1)
  exact hshift p v tried 0

/-- Behind the part of a path that leads to a node the descent goes on from there. -/
theorem descend_append (hp : IsAscii p) (hleads : Leads p v w) (q : List String) :
    descend (p ++ q) v = descendFrom p.length q w := by
  have hfrom : ∀ tried, descendFrom tried (p ++ q) v = descendFrom (tried + p.length) q w := by
    induction hleads with
    | here v => exact fun _ => rfl
    | @step name names v u w hname _ ih =>
        intro tried
        have hstep := (step_eq_some (hp name List.mem_cons_self)).mpr hname
        rw [List.cons_append, descendFrom, hstep]
        show descendFrom (tried + 1) (names ++ q) u = _
        rw [ih (fun n hn => hp n (List.mem_cons_of_mem name hn)), List.length_cons]
        congr 1
        omega
  rw [descend, hfrom 0, Nat.zero_add]

theorem descend_of_leads (hp : IsAscii p) (hleads : Leads p v w) : descend p v = .ok w := by
  have h := descend_append hp hleads []
  rwa [List.append_nil] at h

/-- A path leads to one node at most. -/
theorem Leads.unique (hp : IsAscii p) {w' : Value} (h : Leads p v w) (h' : Leads p v w') :
    w = w' :=
  Except.ok.inj ((descend_of_leads hp h).symm.trans (descend_of_leads hp h'))

theorem descend_of_breaks (hp : IsAscii p) (h : Breaks p v) :
    descend p v = .error (.fault .malformed) := by
  obtain ⟨before, name, after, items, rfl, hleads, hname⟩ := h
  have hbefore : IsAscii before := fun n hn => hp n (List.mem_append_left _ hn)
  have hascii := hp name (List.mem_append_right _ List.mem_cons_self)
  rw [descend_append hbefore hleads, descendFrom,
    (step_eq_error hascii).mpr ⟨rfl, items, rfl, hname⟩]
  rfl

/-- How a descent can end. -/
inductive Ends (p : List String) (v : Value) : Except Stop Value → Prop
  | arrives {w : Value} (hleads : Leads p v w) : Ends p v (.ok w)
  | missing {before after : List String} {name : String} {w : Value}
      (hpath : p = before ++ name :: after) (hleads : Leads before v w)
      (hnone : ∀ x, ¬Denotes name w x) : Ends p v (.error (.missing (before.length + 1)))
  | breaks (h : Breaks p v) : Ends p v (.error (.fault .malformed))

/-- The descent ends in one of these ways. Induction on the steps: where the first one leads
somewhere, the descent ends as the one from there does. -/
theorem descend_ends (hp : IsAscii p) (v : Value) : Ends p v (descend p v) := by
  induction p generalizing v with
  | nil => exact .arrives (.here v)
  | cons name p ih =>
      have hname := hp name List.mem_cons_self
      have hrest : IsAscii p := fun n hn => hp n (List.mem_cons_of_mem name hn)
      rw [descend, descendFrom]
      cases hstep : step name v with
      | error f =>
          obtain ⟨rfl, items, rfl, hno⟩ := (step_eq_error hname).mp hstep
          exact .breaks ⟨[], name, p, items, rfl, .here _, hno⟩
      | ok found =>
          cases found with
          | none =>
              have hnone : ∀ x, ¬Denotes name v x := by
                intro x hx
                rw [(step_eq_some hname).mpr hx] at hstep
                cases hstep
              exact @Ends.missing (name :: p) v [] p name v rfl (.here v) hnone
          | some u =>
              have hdenotes := (step_eq_some hname).mp hstep
              show Ends (name :: p) v (descendFrom (0 + 1) p u)
              rw [descendFrom_eq]
              -- the descent from the node decides; only its count is one step too low
              have hends := ih hrest u
              generalize descend p u = ending at hends
              cases hends with
              | arrives hleads => exact .arrives (.step hdenotes hleads)
              | @missing before after next x hpath hleads hnone =>
                  have hcount : 0 + 1 + (before.length + 1) = (name :: before).length + 1 := by
                    rw [List.length_cons]
                    omega
                  show Ends (name :: p) v (.error (.missing (0 + 1 + (before.length + 1))))
                  rw [hcount]
                  exact .missing (by rw [hpath]; rfl) (.step hdenotes hleads) hnone
              | breaks h =>
                  obtain ⟨before, next, after, items, rfl, hleads, hno⟩ := h
                  exact .breaks ⟨name :: before, next, after, items, rfl,
                    .step hdenotes hleads, hno⟩

/-- The steps up to the first one that denotes nothing are the shortest part that leads nowhere. -/
theorem isFirstMiss_of_missing {before after : List String} {name : String}
    (hbefore : IsAscii before) (hleads : Leads before v w) (hnone : ∀ x, ¬Denotes name w x) :
    IsFirstMiss (before ++ name :: after) v (before ++ [name]) where
  within := ⟨after, by simp⟩
  misses := by
    intro x hx
    obtain ⟨w', hw', hrest⟩ := leads_append.mp hx
    cases hrest with
    | step hname _ => exact hnone _ (hw'.unique hbefore hleads ▸ hname)
  first := by
    intro part hpart hshort
    have hlength : part.length ≤ before.length := by
      rw [List.length_append, List.length_singleton] at hshort
      omega
    -- a shorter part is one of those that have led somewhere
    obtain ⟨rest, rfl⟩ := List.prefix_of_prefix_length_le hpart (List.prefix_append _ _) hlength
    obtain ⟨u, hu, -⟩ := leads_append.mp hleads
    exact ⟨u, hu⟩

/-- There is one shortest part that leads nowhere at most. -/
theorem IsFirstMiss.unique {walked walked' : List String} (h : IsFirstMiss p v walked)
    (h' : IsFirstMiss p v walked') : walked = walked' := by
  have hle : ∀ {a b : List String}, IsFirstMiss p v a → IsFirstMiss p v b → b.length ≤ a.length := by
    intro a b ha hb
    by_contra hlt
    obtain ⟨u, hu⟩ := hb.first a ha.within (not_le.mp hlt)
    exact ha.misses u hu
  have hlength : walked.length = walked'.length := Nat.le_antisymm (hle h' h) (hle h h')
  exact (List.prefix_of_prefix_length_le h.within h'.within hlength.le).eq_of_length hlength

/-! ### How a descent ends, by the path alone -/

theorem descend_eq_ok (hp : IsAscii p) : descend p v = .ok w ↔ Leads p v w := by
  refine ⟨fun h => ?_, descend_of_leads hp⟩
  have hends := descend_ends hp v
  rw [h] at hends
  cases hends with
  | arrives hleads => exact hleads

theorem descend_eq_fault (hp : IsAscii p) {f : Fault} :
    descend p v = .error (.fault f) ↔ f = .malformed ∧ Breaks p v := by
  constructor
  · intro h
    have hends := descend_ends hp v
    rw [h] at hends
    cases hends with
    | breaks hbreaks => exact ⟨rfl, hbreaks⟩
  · rintro ⟨rfl, hbreaks⟩
    exact descend_of_breaks hp hbreaks

/-- If the descent says how far it went, then so far is the first miss, and the path does not break.
-/
theorem isFirstMiss_of_descend (hp : IsAscii p) {n : Nat}
    (h : descend p v = .error (.missing n)) :
    IsFirstMiss p v (p.take n) ∧ n ≤ p.length ∧ ¬Breaks p v := by
  have hwhole : ¬Breaks p v := by
    intro hbreaks
    rw [descend_of_breaks hp hbreaks] at h
    cases h
  have hends := descend_ends hp v
  rw [h] at hends
  cases hends with
  | @missing before after name u hpath hleads hnone =>
      subst hpath
      have hbefore : IsAscii before := fun n hn => hp n (List.mem_append_left _ hn)
      -- the steps that were tried are those before the miss and the one that missed
      have htake : (before ++ name :: after).take (before.length + 1) = before ++ [name] := by
        rw [List.take_length_add_append]
        rfl
      rw [htake]
      exact ⟨isFirstMiss_of_missing hbefore hleads hnone, by simp, hwhole⟩

theorem descend_of_isFirstMiss (hp : IsAscii p) {walked : List String}
    (h : IsFirstMiss p v walked) (hwhole : ¬Breaks p v) :
    descend p v = .error (.missing walked.length) := by
  cases hdescend : descend p v with
  | ok w =>
      -- a path that leads somewhere leads there by way of each of its parts
      obtain ⟨rest, rfl⟩ := h.within
      obtain ⟨u, hu, -⟩ := leads_append.mp ((descend_eq_ok hp).mp hdescend)
      exact absurd hu (h.misses u)
  | error stop =>
      cases stop with
      | fault f => exact absurd ((descend_eq_fault hp).mp hdescend).2 hwhole
      | missing n =>
          obtain ⟨hmiss, hn, -⟩ := isFirstMiss_of_descend hp hdescend
          rw [h.unique hmiss, List.length_take, Nat.min_eq_left hn]

end

end Rostering.KeyPath
