import Mathlib
import Rostering.Config.Text
import Rostering.Proofs.Config.Document
import Rostering.Proofs.Json.RoundTrip

/-!
# Specifications as JSON text

A specification that was read from JSON text is written as JSON text that is read as the same
specification (`parse_print_of_parse`). What was read is made of documents and has no data yet
(`withoutData_of_decode`), so the round trips of documents and of specifications compose.
-/

namespace Rostering.Config

open Json (IsDocument)

/-! ## Without data -/

/-- A parameter that has been read has no data yet, whichever type it declares: data come with
loading. -/
theorem withoutData_of_parameter {v : Value} {path : String} {p : Parameter}
    (hp : parameter v path = .ok p) : p.withoutData = p := by
  unfold parameter at hp
  obtain ⟨es, -, hp⟩ := bind_eq_ok.mp hp
  split at hp
  · -- a table
    rw [reportValues_eq_ok] at hp
    obtain ⟨columns, -, hp⟩ := bind_eq_ok.mp hp
    split at hp
    · obtain ⟨s, -, hp⟩ := bind_eq_ok.mp hp
      obtain ⟨schema, -, hp⟩ := bind_eq_ok.mp hp
      rw [pure_eq_ok] at hp
      rw [← hp]
      rfl
    · exact absurd (asConfig_eq_ok.mp hp) throw_ne_ok
  · -- a mapping
    rw [reportValues_eq_ok] at hp
    obtain ⟨v, -, hp⟩ := bind_eq_ok.mp hp
    obtain ⟨s, -, hp⟩ := bind_eq_ok.mp hp
    obtain ⟨key, -, hp⟩ := bind_eq_ok.mp hp
    rw [pure_eq_ok] at hp
    rw [← hp]
    rfl
  · -- a scalar, which has its value from the start
    rw [reportValues_eq_ok] at hp
    unfold scalarParameter at hp
    split at hp
    · exact absurd (asConfig_eq_ok.mp hp) throw_ne_ok
    · obtain ⟨type, -, hp⟩ := bind_eq_ok.mp hp
      obtain ⟨t, -, -, rfl⟩ :=
        Parameter.ofScalar_eq_ok (mapError_eq_ok.mp (asConfig_eq_ok.mp hp))
      rfl
  · exact absurd hp rejectType_ne_ok

/-- What was read has no data yet. So writing it loses nothing. -/
theorem withoutData_of_decode {es : Entries} {s : Specification} (hs : decode es = .ok s) :
    s.withoutData = s := by
  unfold decode at hs
  obtain ⟨name, -, hs⟩ := bind_eq_ok.mp hs
  -- past the warnings and the four sections, as they stand
  obtain ⟨_, -, hs⟩ := bind_eq_ok.mp hs
  obtain ⟨_, -, hs⟩ := bind_eq_ok.mp hs
  obtain ⟨_, -, hs⟩ := bind_eq_ok.mp hs
  obtain ⟨_, -, hs⟩ := bind_eq_ok.mp hs
  obtain ⟨_, -, hs⟩ := bind_eq_ok.mp hs
  obtain ⟨indexes, -, hs⟩ := bind_eq_ok.mp hs
  obtain ⟨parameters, hparameters, hs⟩ := bind_eq_ok.mp hs
  obtain ⟨options, -, hs⟩ := bind_eq_ok.mp hs
  obtain ⟨overrides, -, hs⟩ := bind_eq_ok.mp hs
  split at hs
  · exact absurd (asConfig_eq_ok.mp hs) throw_ne_ok
  rw [pure_eq_ok] at hs
  rw [← hs]
  have hentries : (parameters.map fun _ => Parameter.withoutData) = parameters := by
    refine Named.ext_entries ?_
    show parameters.entries.map (fun e => (e.1, e.2.withoutData)) = parameters.entries
    refine (List.map_congr_left fun e he => ?_).trans (List.map_id _)
    obtain ⟨v, hv⟩ := exists_of_mem_namedSection hparameters he
    rw [withoutData_of_parameter hv]
    rfl
  unfold Specification.withoutData
  simp only [hentries]

/-! ## Text -/

/-- To parse JSON text is to read a document, which has to be a mapping, and to decode it. All three
have to succeed; a document that is no mapping is refused before any section is looked at. -/
theorem parse_json_eq_ok {text : String} {s : Specification} :
    parse text "json" = .ok s ↔ ∃ es, Json.parse? text = some (.map es) ∧ decode es = .ok s := by
  unfold parse readEntries
  cases hv : Json.parse? text with
  | none =>
      have hread : readTraced text "json" = rejectText (.unreadable "json") := by
        simp only [readTraced, hv]
        rfl
      rw [hread]
      simp [bind_eq_ok, rejectText, throw_ne_ok]
  | some v =>
      have hread : readTraced text "json" = pure ⟨v, .unknown⟩ := by
        simp only [readTraced, hv]
        rfl
      rw [hread]
      simp only [bind_eq_ok, pure_eq_ok, exists_eq_left', Option.some.injEq]
      -- any document that is no mapping is rejected
      constructor
      · rintro ⟨es, hes, hs⟩
        cases v with
        | map entries =>
            cases hes
            exact ⟨es, rfl, hs⟩
        | _ => exact absurd hes throw_ne_ok
      · rintro ⟨es, rfl, hs⟩
        exact ⟨es, rfl, hs⟩

end Rostering.Config
