import CestaPlan.Engine.Conversions
import CestaPlan.Library.TwoWay
import Mathlib.Tactic.FieldSimp

/-! Conversions there and back, with exact decimals. A factor is declared in both directions, and a bridge takes the same
    declaration from either side. -/

namespace CestaPlan.Engine
open TwoWay

/-- What a unit measures; one of no table measures itself. -/
def unitKind (u : String) : Dimension ⊕ String :=
  if (massToG.lookup u).isSome then .inl .mass
  else if (volumeToMl.lookup u).isSome then .inl .volume
  else if countUnits.contains u then .inl .count
  else .inr u

/-- The factor of a unit in its table. -/
def unitScale (u : String) : ℚ := ((massToG.lookup u).or (volumeToMl.lookup u)).getD 1

theorem unitScale_pos (u : String) : 0 < unitScale u := by
  unfold unitScale
  cases hmass : massToG.lookup u with
  | some a => exact massToG_pos hmass
  | none =>
    cases hvolume : volumeToMl.lookup u with
    | some a => exact volumeToMl_pos hvolume
    | none => exact zero_lt_one

theorem volume_of_mass {u : String} {a : ℚ} (h : massToG.lookup u = some a) :
    volumeToMl.lookup u = none ∧ u ∉ countUnits := by
  have hall : ∀ p ∈ massToG, volumeToMl.lookup p.1 = none ∧ p.1 ∉ countUnits := by decide +kernel
  obtain ⟨l₁, l₂, heq, -⟩ := List.lookup_eq_some_iff.mp h
  exact hall (u, a) (by simp [heq])

theorem count_of_volume {u : String} {a : ℚ} (h : volumeToMl.lookup u = some a) : u ∉ countUnits := by
  have hall : ∀ p ∈ volumeToMl, p.1 ∉ countUnits := by decide +kernel
  obtain ⟨l₁, l₂, heq, -⟩ := List.lookup_eq_some_iff.mp h
  exact hall (u, a) (by simp [heq])

section Conversions
variable {py : Runtime}

theorem unitKind_cases (u : String) :
    (∃ a, massToG.lookup u = some a ∧ volumeToMl.lookup u = none ∧ u ∉ countUnits ∧ unitKind u = .inl .mass) ∨
    (∃ a, massToG.lookup u = none ∧ volumeToMl.lookup u = some a ∧ u ∉ countUnits ∧ unitKind u = .inl .volume) ∨
    (massToG.lookup u = none ∧ volumeToMl.lookup u = none ∧ u ∈ countUnits ∧ unitKind u = .inl .count) ∨
    (massToG.lookup u = none ∧ volumeToMl.lookup u = none ∧ u ∉ countUnits ∧ unitKind u = .inr u) := by
  cases hmass : massToG.lookup u with
  | some a =>
    obtain ⟨hvolume, hcount⟩ := volume_of_mass hmass
    exact .inl ⟨a, rfl, hvolume, hcount, by simp [unitKind, hmass]⟩
  | none =>
    cases hvolume : volumeToMl.lookup u with
    | some a => exact .inr (.inl ⟨a, rfl, rfl, count_of_volume hvolume, by simp [unitKind, hmass, hvolume]⟩)
    | none =>
      by_cases hcount : u ∈ countUnits
      · exact .inr (.inr (.inl ⟨rfl, rfl, hcount, by simp [unitKind, hmass, hvolume, hcount]⟩))
      · exact .inr (.inr (.inr ⟨rfl, rfl, hcount, by simp [unitKind, hmass, hvolume, hcount]⟩))

theorem convertWithin_eq (hexact : py.round = id) (quantity : ℚ) (f t : String) : convertWithin py quantity f t =
    if unitKind f = unitKind t then some (quantity * unitScale f / unitScale t) else none := by
  by_cases hft : f = t
  · have hscale := unitScale_pos t
    rw [hft, if_pos rfl, convertWithin, if_pos rfl]
    field_simp
  · simp only [convertWithin, if_neg hft, py.mul_exact hexact, py.div_exact hexact, unitScale]
    rcases unitKind_cases f with ⟨a, hf, hf', hf'', hkf⟩ | ⟨a, hf, hf', hf'', hkf⟩ | ⟨hf, hf', hf'', hkf⟩ | ⟨hf, hf', hf'', hkf⟩ <;>
      rcases unitKind_cases t with ⟨b, ht, ht', ht'', hkt⟩ | ⟨b, ht, ht', ht'', hkt⟩ | ⟨ht, ht', ht'', hkt⟩ | ⟨ht, ht', ht'', hkt⟩ <;>
      simp [hf, hf', hf'', hkf, ht, ht', ht'', hkt, hft]

theorem bridge_eq (hexact : py.round = id) (factors : Factors) (quantity : ℚ) (f t name : String) :
    bridge py factors quantity f t name = factors.entries.findSome? fun e =>
      if e.1.1 = name ∧ unitKind (normUnit py f) = unitKind (normUnit py e.1.2.1) ∧
          unitKind (normUnit py e.1.2.2) = unitKind (normUnit py t) then
        some (quantity * unitScale (normUnit py f) / unitScale (normUnit py e.1.2.1) * e.2 *
          unitScale (normUnit py e.1.2.2) / unitScale (normUnit py t))
      else none := by
  unfold bridge
  congr 1
  funext e
  obtain ⟨⟨n, cf, ct⟩, factor⟩ := e
  simp only [convertWithin_eq hexact, py.mul_exact hexact, Option.bind_eq_bind]
  by_cases hn : n = name
  · by_cases hcf : unitKind (normUnit py f) = unitKind (normUnit py cf)
    · by_cases hct : unitKind (normUnit py ct) = unitKind (normUnit py t)
      · simp [hn, hcf, hct]
      · simp [hn, hcf, hct]
    · simp [hn, hcf]
  · simp [hn]

theorem unitConverter_twinned (hexact : py.round = id) {conversions : List IngredientConversionDTO}
    (h : ∀ conv ∈ conversions, conv.factor ≠ 0) : Twinned (unitConverter py conversions).entries := by
  unfold unitConverter
  induction conversions using List.reverseRecOn with
  | nil => exact .nil
  | append_singleton convs conv ih =>
    have hconv := h conv (List.mem_append_right _ (List.mem_singleton_self conv))
    rw [List.foldl_append, List.foldl_cons, List.foldl_nil, if_pos hconv]
    refine (ih fun c hc => h c (List.mem_append_left _ hc)).declare _ _ _ ?_
    rw [py.div_exact hexact]
    exact mul_one_div_cancel hconv

theorem bridge_back (hexact : py.round = id) {factors : Factors} (htwinned : Twinned factors.entries) {f t : String}
    (hkind : unitKind (normUnit py f) ≠ unitKind (normUnit py t)) (name : String) (quantity : ℚ) :
    Option.Rel (fun r back => r * back = quantity) (bridge py factors quantity f t name) (bridge py factors 1 t f name) := by
  rw [bridge_eq hexact, bridge_eq hexact]
  have hpos : ∀ u, 0 < unitScale (normUnit py u) := fun u => unitScale_pos _
  refine htwinned.search (fun n u a => ?_) (fun n cf ct a b hone => ?_) fun n cf ct a b hsome => ?_
  · constructor
    · exact if_neg fun h => hkind (h.2.1.trans h.2.2)
    · exact if_neg fun h => hkind (h.2.1.trans h.2.2).symm
  · by_cases h : n = name ∧ unitKind (normUnit py f) = unitKind (normUnit py cf) ∧ unitKind (normUnit py ct) = unitKind (normUnit py t)
    · rw [if_pos h, if_pos ⟨h.1, h.2.2.symm, h.2.1.symm⟩]
      refine .some ?_
      have hf := (hpos f).ne'
      have ht := (hpos t).ne'
      have hcf := (hpos cf).ne'
      have hct := (hpos ct).ne'
      field_simp
      rw [mul_assoc, hone, mul_one]
    · rw [if_neg h, if_neg fun h' => h ⟨h'.1, h'.2.2.symm, h'.2.1.symm⟩]
      exact .none
  · refine if_neg fun h => ?_
    split at hsome
    · next h' => exact hkind (h'.2.1.trans h.2.2)
    · cases hsome

theorem normUnit_normUnit (py : Runtime) (u : String) : normUnit py (normUnit py u) = normUnit py u := py.fold_fold u

theorem convert_declared (hexact : py.round = id) {factors : Factors} {f t : String} {name : Option String}
    (hkind : unitKind (normUnit py f) ≠ unitKind (normUnit py t)) {q r : ℚ} : convert py factors q f t name = .ok r ↔
      ∃ n ∈ name, (∃ direct, factors.get? (n, normUnit py f, normUnit py t) = some direct ∧ q * direct = r) ∨
        (factors.get? (n, normUnit py f, normUnit py t) = none ∧
          bridge py factors q (normUnit py f) (normUnit py t) n = some r) := by
  simp only [convert, convertWithin_eq hexact, if_neg hkind]
  cases name with
  | none =>
    simp only [Option.bind_none]
    split <;> simp
  | some n =>
    simp only [Option.bind_some]
    cases hget : factors.get? (n, normUnit py f, normUnit py t) with
    | some direct => simp [hget, py.mul_exact hexact]
    | none =>
      cases hbridge : bridge py factors q (normUnit py f) (normUnit py t) n with
      | some r' => simp [hget, hbridge]
      | none =>
        simp only
        split <;> simp [hget, hbridge]

theorem convert_back (hexact : py.round = id) {factors : Factors} (htwinned : Twinned factors.entries) {f t : String}
    {name : Option String} {q r : ℚ} (h : convert py factors q f t name = .ok r) : convert py factors r t f name = .ok q := by
  by_cases hkind : unitKind (normUnit py f) = unitKind (normUnit py t)
  · simp only [convert, convertWithin_eq hexact, if_pos hkind, if_pos hkind.symm] at h ⊢
    have hf := (unitScale_pos (normUnit py f)).ne'
    have ht := (unitScale_pos (normUnit py t)).ne'
    obtain rfl := Except.ok.inj h
    field_simp
  · have hne : normUnit py f ≠ normUnit py t := fun heq => hkind (congrArg unitKind heq)
    obtain ⟨n, hn, hdeclared⟩ := (convert_declared hexact hkind).mp h
    refine (convert_declared hexact (Ne.symm hkind)).mpr ⟨n, hn, ?_⟩
    rcases hdeclared with ⟨direct, hget, rfl⟩ | ⟨hget, hbridge⟩
    · obtain ⟨back, hmem, hone⟩ := htwinned.mem_back hne (Dict.mem_entries_iff.mpr hget)
      exact .inl ⟨back, Dict.mem_entries_iff.mp hmem, by rw [mul_assoc, hone, mul_one]⟩
    · refine .inr ⟨?_, ?_⟩
      · cases hback : factors.get? (n, normUnit py t, normUnit py f) with
        | none => rfl
        | some back =>
          obtain ⟨direct, hmem, -⟩ := htwinned.mem_back hne.symm (Dict.mem_entries_iff.mpr hback)
          rw [Dict.mem_entries_iff.mp hmem] at hget
          cases hget
      · have hkind' : unitKind (normUnit py (normUnit py f)) ≠ unitKind (normUnit py (normUnit py t)) := by
          rwa [normUnit_normUnit, normUnit_normUnit]
        have hrel := bridge_back hexact htwinned hkind' n q
        rw [hbridge] at hrel
        rw [bridge_mul hexact]
        cases hb : bridge py factors 1 (normUnit py t) (normUnit py f) n with
        | none => rw [hb] at hrel; cases hrel
        | some back =>
          rw [hb] at hrel
          cases hrel with
          | some hq => rw [Option.map_some, hq]

/-- Units convert in both directions or in none, and there and back a quantity is the same, whatever is declared. -/
theorem convert_roundTrip (py : Runtime) (hexact : py.round = id) (conversions : List IngredientConversionDTO)
    (h : ∀ conv ∈ conversions, conv.factor ≠ 0) (name : Option String) (f t : String) :
    (∀ q q', (∃ r, convert py (unitConverter py conversions) q f t name = .ok r) ↔
      ∃ r, convert py (unitConverter py conversions) q' t f name = .ok r) ∧
    ∀ q r, convert py (unitConverter py conversions) q f t name = .ok r →
      convert py (unitConverter py conversions) r t f name = .ok q := by
  have htwinned := unitConverter_twinned hexact h
  refine ⟨fun q q' => ⟨?_, ?_⟩, fun q r => convert_back hexact htwinned⟩
  · rintro ⟨r, hr⟩
    exact exists_convert (convert_back hexact htwinned hr) q'
  · rintro ⟨r, hr⟩
    exact exists_convert (convert_back hexact htwinned hr) q

/-- Milk by the litre and by the kilo, with the second declaration over the first one. -/
theorem convert_roundTrip_milk :
    convert (Runtime.replay []) (unitConverter (Runtime.replay [])
      [{ canonicalName := "leche", fromUnit := "ml", toUnit := "g", factor := 1 },
       { canonicalName := "leche", fromUnit := "g", toUnit := "ml", factor := 4 / 5 }]) 2500 "g" "l" (some "leche") = .ok 2 := by
  refine (convert_roundTrip (Runtime.replay []) rfl _ ?_ (some "leche") "l" "g").2 2 2500 ?_
  · decide +kernel
  · decide +kernel

end Conversions
end CestaPlan.Engine
