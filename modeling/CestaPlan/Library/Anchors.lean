import Mathlib.Data.List.MinMax
import Mathlib.Order.Lattice

/-! The neighbours of an instant among a list of anchors: the first anchor after it and the last one
    before it. The anchors come in any order and with repetitions; only which instants occur matters. -/

namespace CestaPlan.Anchors

variable {T : Type} [LinearOrder T]

/-- The first anchor after `t`. -/
def nextAnchor (anchors : List T) (t : T) : Option T := (anchors.filter (t < ·)).min?

/-- The last anchor before `t`. -/
def previousAnchor (anchors : List T) (t : T) : Option T := (anchors.filter (· < t)).max?

/-- The last anchor up to `t`. -/
def lastAnchor (anchors : List T) (t : T) : Option T := (anchors.filter (· ≤ t)).max?

variable {anchors : List T} {t u : T}

theorem nextAnchor_eq_some_iff :
    nextAnchor anchors t = some u ↔ u ∈ anchors ∧ t < u ∧ ∀ a ∈ anchors, t < a → u ≤ a := by
  simp only [nextAnchor, List.min?_eq_some_iff, List.mem_filter, decide_eq_true_eq, and_imp, and_assoc]

theorem nextAnchor_eq_none_iff : nextAnchor anchors t = none ↔ ∀ a ∈ anchors, a ≤ t := by
  simp only [nextAnchor, List.min?_eq_none_iff, List.filter_eq_nil_iff, decide_eq_true_eq, not_lt]

theorem previousAnchor_eq_some_iff :
    previousAnchor anchors t = some u ↔ u ∈ anchors ∧ u < t ∧ ∀ a ∈ anchors, a < t → a ≤ u := by
  simp only [previousAnchor, List.max?_eq_some_iff, List.mem_filter, decide_eq_true_eq, and_imp, and_assoc]

theorem previousAnchor_eq_none_iff : previousAnchor anchors t = none ↔ ∀ a ∈ anchors, t ≤ a := by
  simp only [previousAnchor, List.max?_eq_none_iff, List.filter_eq_nil_iff, decide_eq_true_eq, not_lt]

theorem lastAnchor_eq_some_iff :
    lastAnchor anchors t = some u ↔ u ∈ anchors ∧ u ≤ t ∧ ∀ a ∈ anchors, a ≤ t → a ≤ u := by
  simp only [lastAnchor, List.max?_eq_some_iff, List.mem_filter, decide_eq_true_eq, and_imp, and_assoc]

theorem lastAnchor_eq_none_iff : lastAnchor anchors t = none ↔ ∀ a ∈ anchors, t < a := by
  simp only [lastAnchor, List.max?_eq_none_iff, List.filter_eq_nil_iff, decide_eq_true_eq, not_le]

theorem nextAnchor_lt (h : nextAnchor anchors t = some u) : t < u := (nextAnchor_eq_some_iff.mp h).2.1

theorem previousAnchor_lt (h : previousAnchor anchors t = some u) : u < t := (previousAnchor_eq_some_iff.mp h).2.1

theorem nextAnchor_le {a : T} (ha : a ∈ anchors) (hlt : t < a) :
    ∃ u, nextAnchor anchors t = some u ∧ u ≤ a := by
  cases hn : nextAnchor anchors t with
  | none => exact absurd (nextAnchor_eq_none_iff.mp hn a ha) (not_le_of_gt hlt)
  | some u => exact ⟨u, rfl, (nextAnchor_eq_some_iff.mp hn).2.2 a ha hlt⟩

theorem le_previousAnchor {a : T} (ha : a ∈ anchors) (hlt : a < t) :
    ∃ u, previousAnchor anchors t = some u ∧ a ≤ u := by
  cases hn : previousAnchor anchors t with
  | none => exact absurd (previousAnchor_eq_none_iff.mp hn a ha) (not_le_of_gt hlt)
  | some u => exact ⟨u, rfl, (previousAnchor_eq_some_iff.mp hn).2.2 a ha hlt⟩

theorem nextAnchor_congr {anchors' : List T} (h : ∀ a, a ∈ anchors ↔ a ∈ anchors') :
    nextAnchor anchors t = nextAnchor anchors' t := by
  cases hn : nextAnchor anchors' t with
  | none => exact nextAnchor_eq_none_iff.mpr fun a ha => nextAnchor_eq_none_iff.mp hn a ((h a).mp ha)
  | some u =>
    obtain ⟨hu, hlt, hmin⟩ := nextAnchor_eq_some_iff.mp hn
    exact nextAnchor_eq_some_iff.mpr ⟨(h u).mpr hu, hlt, fun a ha => hmin a ((h a).mp ha)⟩

theorem lastAnchor_congr {anchors' : List T} (h : ∀ a, a ∈ anchors ↔ a ∈ anchors') :
    lastAnchor anchors t = lastAnchor anchors' t := by
  cases hn : lastAnchor anchors' t with
  | none => exact lastAnchor_eq_none_iff.mpr fun a ha => lastAnchor_eq_none_iff.mp hn a ((h a).mp ha)
  | some u =>
    obtain ⟨hu, hle, hmax⟩ := lastAnchor_eq_some_iff.mp hn
    exact lastAnchor_eq_some_iff.mpr ⟨(h u).mpr hu, hle, fun a ha => hmax a ((h a).mp ha)⟩

/-- An anchor is the last one up to `t` exactly when `t` lies between it and its next anchor. -/
theorem lastAnchor_eq_iff (hu : u ∈ anchors) :
    lastAnchor anchors t = some u ↔ u ≤ t ∧ ∀ n, nextAnchor anchors u = some n → t < n := by
  rw [lastAnchor_eq_some_iff]
  constructor
  · rintro ⟨-, hle, hmax⟩
    refine ⟨hle, fun n hn => ?_⟩
    obtain ⟨hmem, hlt, -⟩ := nextAnchor_eq_some_iff.mp hn
    by_contra hc
    exact absurd hlt (not_lt_of_ge (hmax n hmem (le_of_not_gt hc)))
  · rintro ⟨hle, hnext⟩
    refine ⟨hu, hle, fun a ha hat => ?_⟩
    by_contra hc
    obtain ⟨n, hn, hna⟩ := nextAnchor_le ha (lt_of_not_ge hc)
    exact absurd (hnext n hn) (not_lt_of_ge (hna.trans hat))

/-- A new anchor `s` in front of all later ones becomes the next anchor of the last anchor before it. -/
theorem nextAnchor_append_previous {s : T} (hp : previousAnchor anchors s = some t) :
    nextAnchor (anchors ++ [s]) t = some s := by
  obtain ⟨-, hlt, hmax⟩ := previousAnchor_eq_some_iff.mp hp
  refine nextAnchor_eq_some_iff.mpr ⟨by simp, hlt, fun a ha hta => ?_⟩
  rcases List.mem_append.mp ha with ha | ha
  · by_contra hc
    exact absurd hta (not_lt_of_ge (hmax a ha (lt_of_not_ge hc)))
  · exact (List.mem_singleton.mp ha).ge

theorem nextAnchor_append_other {s : T} (ht : t ∈ anchors) (hp : previousAnchor anchors s ≠ some t) :
    nextAnchor (anchors ++ [s]) t = nextAnchor anchors t := by
  rcases lt_or_ge t s with hlt | hge
  · -- Some anchor lies between `t` and `s`, so `s` is not the first one after `t`.
    obtain ⟨p, hp', htp⟩ := le_previousAnchor ht hlt
    have htp' : t < p := lt_of_le_of_ne htp fun h => hp (h ▸ hp')
    obtain ⟨hpm, hps, -⟩ := previousAnchor_eq_some_iff.mp hp'
    obtain ⟨u, hu, hup⟩ := nextAnchor_le hpm htp'
    obtain ⟨hum, htu, hmin⟩ := nextAnchor_eq_some_iff.mp hu
    rw [hu]
    refine nextAnchor_eq_some_iff.mpr ⟨List.mem_append_left _ hum, htu, fun a ha hta => ?_⟩
    rcases List.mem_append.mp ha with ha | ha
    · exact hmin a ha hta
    · rw [List.mem_singleton.mp ha]
      exact (lt_of_le_of_lt hup hps).le
  · unfold nextAnchor
    rw [List.filter_append, List.filter_cons_of_neg (by simpa using hge), List.filter_nil, List.append_nil]

theorem nextAnchor_append_self {s : T} : nextAnchor (anchors ++ [s]) s = nextAnchor anchors s := by
  unfold nextAnchor
  rw [List.filter_append, List.filter_cons_of_neg (by simp), List.filter_nil, List.append_nil]

end CestaPlan.Anchors
