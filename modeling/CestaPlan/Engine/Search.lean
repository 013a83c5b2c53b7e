import CestaPlan.Engine.Optimizer
import CestaPlan.Library.LocalSearch

/-! The optimizer as a local search.

    `optimize` carries scores, provisions and the cheapest plan along. What it selects is given here without
    them, by the landscape of scores and costs alone, and the code is shown to select just that. -/

namespace CestaPlan.Engine.PlanOptimizer
open LocalSearch

section Selection
variable (py : Runtime) (o : PlanOptimizer)

/-- The recipes for each opening, in the orders that the random source gives. -/
def explorer : Explorer Opening CandidateRecipeDTO py.RandomState where
  options := Opening.options
  explore opening rng := ordered py opening.options rng
  explore_perm opening rng := ordered_perm py opening.options rng

def costOf (slots : List MealSlot) (recipes : List CandidateRecipeDTO) : ℚ :=
  (o.provision py slots recipes).costTotal py

def scoreOf (slots : List MealSlot) (recipes : List CandidateRecipeDTO) : ℚ :=
  o.score py recipes (o.provision py slots recipes) slots

/-- The recipe at position `i` may be replaced by another one: the score falls, or stays and the id falls. -/
def accepts (slots : List MealSlot) (chosen : List CandidateRecipeDTO) (i : ℕ) (recipe : CandidateRecipeDTO) : Bool :=
  chosen[i]?.any fun current =>
    decide (recipe.recipeId ≠ current.recipeId) &&
      decide (toLex (o.scoreOf py slots (chosen.set i recipe), recipe.recipeId) <
        toLex (o.scoreOf py slots chosen, current.recipeId))

/-- The search seeded by cost, or by the full score, reaches an assignment and leaves a random state. -/
def SearchReaches (costOnly : Bool) (openings : List Opening) (rng : py.RandomState)
    (w : List CandidateRecipeDTO × py.RandomState) : Prop :=
  Reaches (explorer py) (fun before => o.greedyKey py costOnly (before.map (·.slot)))
    (o.accepts py (openings.map (·.slot))) openings maxPasses rng w

/-- The assignment is where the variety search ends, within the limit; or that search ends over it, and the cost
    search, which goes on with the random source, ends there within the limit. -/
def Selects (openings : List Opening) (rng : py.RandomState) (chosen : List CandidateRecipeDTO) : Prop :=
  ∃ first rng', o.SearchReaches py false openings rng (first, rng') ∧
    ((chosen = first ∧ o.costOf py (openings.map (·.slot)) first ≤ o.budgetLimit py) ∨
      (o.budgetLimit py < o.costOf py (openings.map (·.slot)) first ∧
        o.costOf py (openings.map (·.slot)) chosen ≤ o.budgetLimit py ∧
        ∃ rng'', o.SearchReaches py true openings rng' (chosen, rng'')))

end Selection

variable {py : Runtime} {o : PlanOptimizer} {openings : List Opening}

theorem Selects.unique {rng : py.RandomState} {c c' : List CandidateRecipeDTO} (h : o.Selects py openings rng c)
    (h' : o.Selects py openings rng c') : c = c' := by
  obtain ⟨first, r, hr, hc⟩ := h
  obtain ⟨first', r', hr', hc'⟩ := h'
  obtain ⟨rfl, rfl⟩ := Prod.mk.inj (hr.unique hr')
  rcases hc with ⟨rfl, hle⟩ | ⟨hlt, -, s, hs⟩ <;> rcases hc' with ⟨rfl, hle'⟩ | ⟨hlt', -, s', hs'⟩
  · rfl
  · exact absurd hle (not_le.mpr hlt')
  · exact absurd hle' (not_le.mpr hlt)
  · exact (Prod.mk.inj (hs.unique hs')).1

theorem Selects.cost_le {rng : py.RandomState} {c : List CandidateRecipeDTO} (h : o.Selects py openings rng c) :
    o.costOf py (openings.map (·.slot)) c ≤ o.budgetLimit py := by
  obtain ⟨first, -, -, ⟨rfl, hle⟩ | ⟨-, hle, -⟩⟩ := h
  · exact hle
  · exact hle

/-! ### The walk -/

section Walks

/-- Some whole assignment of candidates costs this much. -/
def IsCost (py : Runtime) (o : PlanOptimizer) (openings : List Opening) (cost : ℚ) : Prop :=
  ∃ recipes, Fills (explorer py) openings recipes ∧ cost = o.costOf py (openings.map (·.slot)) recipes

/-- What a walk carries along is that of the assignment where it stands, and of one that it has seen. -/
structure Sound (o : PlanOptimizer) (openings : List Opening) (w : Walk py) : Prop where
  fills : Fills (explorer py) openings w.chosen
  prov_eq : w.bestProv = o.provision py (openings.map (·.slot)) w.chosen
  score_eq : w.bestScore = o.scoreOf py (openings.map (·.slot)) w.chosen
  seen : ∃ c, w.cheapest = some c ∧ IsCost py o openings c.cost

variable {w : Walk py}

theorem Sound.isCost (hs : Sound o openings w) : ∀ c, w.cheapest = some c → IsCost py o openings c.cost := by
  intro c hc
  obtain ⟨c', hc', hcost⟩ := hs.seen
  exact Option.some.inj (hc'.symm.trans hc) ▸ hcost

theorem trackCheapest_isCost (cheapest : Option Cheapest) {recipes : List CandidateRecipeDTO}
    (hc : ∀ c, cheapest = some c → IsCost py o openings c.cost) (hf : Fills (explorer py) openings recipes) :
    ∃ c, trackCheapest py cheapest recipes (o.provision py (openings.map (·.slot)) recipes) = some c ∧
      IsCost py o openings c.cost := by
  cases cheapest with
  | none => exact ⟨_, rfl, recipes, hf, rfl⟩
  | some c =>
    by_cases h : o.costOf py (openings.map (·.slot)) recipes < c.cost
    · exact ⟨_, if_pos h, recipes, hf, rfl⟩
    · exact ⟨c, if_neg h, hc c rfl⟩

variable {slots : List MealSlot} {i : ℕ} {current : CandidateRecipeDTO}

theorem trySwap_cons (recipe : CandidateRecipeDTO) (rest : List CandidateRecipeDTO)
    (hcur : w.chosen[i]? = some current) (hscore : w.bestScore = o.scoreOf py slots w.chosen) :
    (o.accepts py slots w.chosen i recipe = true ∧
      o.trySwap py slots i current (recipe :: rest) w =
        ({ w with
            cheapest := trackCheapest py w.cheapest (w.chosen.set i recipe)
              (o.provision py slots (w.chosen.set i recipe))
            chosen := w.chosen.set i recipe
            bestScore := o.scoreOf py slots (w.chosen.set i recipe)
            bestProv := o.provision py slots (w.chosen.set i recipe) }, true)) ∨
    (o.accepts py slots w.chosen i recipe = false ∧
      ∃ cheapest, (cheapest = w.cheapest ∨
          cheapest = trackCheapest py w.cheapest (w.chosen.set i recipe)
            (o.provision py slots (w.chosen.set i recipe))) ∧
        o.trySwap py slots i current (recipe :: rest) w =
          o.trySwap py slots i current rest { w with cheapest := cheapest }) := by
  by_cases hid : recipe.recipeId = current.recipeId
  · refine .inr ⟨by simp [accepts, hcur, hid], w.cheapest, .inl rfl, ?_⟩
    rw [trySwap, if_pos hid]
  · by_cases hlt : toLex (o.scoreOf py slots (w.chosen.set i recipe), recipe.recipeId) <
        toLex (o.scoreOf py slots w.chosen, current.recipeId)
    · refine .inl ⟨by simp [accepts, hcur, hid, hlt], ?_⟩
      rw [trySwap, if_neg hid]
      exact if_pos (hscore ▸ hlt)
    · refine .inr ⟨by simp [accepts, hcur, hlt], _, .inr rfl, ?_⟩
      rw [trySwap, if_neg hid]
      exact if_neg (hscore ▸ hlt)

theorem trySwap_spec {opening : Opening} (hi : openings[i]? = some opening) (options : List CandidateRecipeDTO)
    (hopts : ∀ r ∈ options, r ∈ opening.options) (hs : Sound o openings w) (hcur : w.chosen[i]? = some current) :
    let found := options.find? (o.accepts py (openings.map (·.slot)) w.chosen i)
    let t := o.trySwap py (openings.map (·.slot)) i current options w
    Sound o openings t.1 ∧ t.1.rng = w.rng ∧ t.1.chosen = found.elim w.chosen (w.chosen.set i) ∧
      t.2 = found.isSome := by
  induction options generalizing w with
  | nil => exact ⟨hs, rfl, rfl, rfl⟩
  | cons recipe rest ih =>
    have hfills : Fills (explorer py) openings (w.chosen.set i recipe) :=
      hs.fills.set hi (hopts recipe List.mem_cons_self)
    have hseen := trackCheapest_isCost w.cheapest hs.isCost hfills
    rcases trySwap_cons recipe rest hcur hs.score_eq with
      ⟨hacc, heq⟩ | ⟨hacc, cheapest, hcheapest, heq⟩
    · rw [heq, List.find?_cons_of_pos hacc]
      exact ⟨⟨hfills, rfl, rfl, hseen⟩, rfl, rfl, rfl⟩
    · rw [heq, List.find?_cons_of_neg (by simp [hacc])]
      refine ih (w := { w with cheapest := cheapest }) (fun r hr => hopts r (List.mem_cons_of_mem _ hr))
        ⟨hs.fills, hs.prov_eq, hs.score_eq, ?_⟩ hcur
      rcases hcheapest with rfl | rfl
      · exact hs.seen
      · exact hseen

theorem visit_spec {opening : Opening} (moved : Bool) (hi : openings[i]? = some opening) (hs : Sound o openings w) :
    let found := (ordered py opening.options w.rng).1.find? (o.accepts py (openings.map (·.slot)) w.chosen i)
    let t := o.visit py (openings.map (·.slot)) (w, moved) (opening, i)
    Sound o openings t.1 ∧ t.1.rng = (ordered py opening.options w.rng).2 ∧
      t.1.chosen = found.elim w.chosen (w.chosen.set i) ∧ t.2 = (moved || found.isSome) := by
  obtain ⟨current, hcur⟩ := hs.fills.exists_getElem? hi
  have hs' : Sound o openings { w with rng := (ordered py opening.options w.rng).2 } :=
    ⟨hs.fills, hs.prov_eq, hs.score_eq, hs.seen⟩
  obtain ⟨hsound, hrng, hchosen, hmoved⟩ :=
    trySwap_spec hi (ordered py opening.options w.rng).1 (fun _ hr => (explorer py).mem_explore.mp hr) hs' hcur
  simp only [visit, hcur]
  exact ⟨hsound, hrng, hchosen, congrArg (moved || ·) hmoved⟩

theorem foldl_visit_spec (places : List (Opening × ℕ)) (hp : ∀ p ∈ places, openings[p.2]? = some p.1) (moved : Bool)
    (hs : Sound o openings w) :
    ∃ w' m, places.foldl (o.visit py (openings.map (·.slot))) (w, moved) = (w', moved || m) ∧
      Sound o openings w' ∧
      Sweep (explorer py) (o.accepts py (openings.map (·.slot))) places (w.chosen, w.rng) (w'.chosen, w'.rng) m := by
  induction places generalizing w moved with
  | nil => exact ⟨w, false, by simp, hs, .done⟩
  | cons p rest ih =>
    obtain ⟨opening, i⟩ := p
    obtain ⟨hsound, hrng, hchosen, hmoved⟩ := visit_spec moved (hp _ List.mem_cons_self) hs
    obtain ⟨w', m, heq, hs', hsweep⟩ := ih (fun p hp' => hp p (List.mem_cons_of_mem _ hp'))
      (o.visit py (openings.map (·.slot)) (w, moved) (opening, i)).2 hsound
    rw [hrng, hchosen] at hsweep
    cases hf : (ordered py opening.options w.rng).1.find? (o.accepts py (openings.map (·.slot)) w.chosen i) with
    | none =>
      rw [hf] at hmoved hsweep
      exact ⟨w', m, by rw [List.foldl_cons, heq, hmoved]; simp, hs', .stay hf hsweep⟩
    | some a =>
      rw [hf] at hmoved hsweep
      exact ⟨w', true, by rw [List.foldl_cons, heq, hmoved]; simp, hs', .move hf hsweep⟩

theorem pass_spec (hs : Sound o openings w) :
    Sound o openings (o.pass py openings w).1 ∧
      Sweep (explorer py) (o.accepts py (openings.map (·.slot))) openings.zipIdx (w.chosen, w.rng)
        ((o.pass py openings w).1.chosen, (o.pass py openings w).1.rng) (o.pass py openings w).2 := by
  obtain ⟨w', m, heq, hs', hsweep⟩ := foldl_visit_spec openings.zipIdx
    (fun p hp => List.mem_zipIdx_iff_getElem?.mp hp) false hs
  rw [Bool.false_or] at heq
  rw [pass, heq]
  exact ⟨hs', hsweep⟩

theorem passes_succ (n : ℕ) : o.passes py openings (n + 1) w =
    if (o.pass py openings w).2 = true then o.passes py openings n (o.pass py openings w).1
    else (o.pass py openings w).1 := rfl

theorem passes_spec (n : ℕ) (hs : Sound o openings w) :
    Sound o openings (o.passes py openings n w) ∧
      Descends (explorer py) (o.accepts py (openings.map (·.slot))) openings n (w.chosen, w.rng)
        ((o.passes py openings n w).chosen, (o.passes py openings n w).rng) := by
  induction n generalizing w with
  | zero => exact ⟨hs, .exhausted⟩
  | succ n ih =>
    obtain ⟨hs', hsweep⟩ := pass_spec hs
    cases hm : (o.pass py openings w).2 with
    | false =>
      rw [passes_succ, if_neg (by simp [hm])]
      exact ⟨hs', .settled (hm ▸ hsweep)⟩
    | true =>
      obtain ⟨hs'', hd⟩ := ih hs'
      rw [passes_succ, if_pos hm]
      exact ⟨hs'', .again (hm ▸ hsweep) hd⟩

theorem greedy_spec (costOnly : Bool) (before rest : List Opening) (chosen : List CandidateRecipeDTO)
    (rng : py.RandomState) (hf : Fills (explorer py) before chosen) :
    Fills (explorer py) (before ++ rest) (o.greedy py costOnly (before.map (·.slot)) chosen rest rng).1 ∧
      Builds (explorer py) (fun before => o.greedyKey py costOnly (before.map (·.slot))) before (chosen, rng) rest
        (o.greedy py costOnly (before.map (·.slot)) chosen rest rng) := by
  induction rest generalizing before chosen rng with
  | nil => exact ⟨by simpa [greedy] using hf, .done⟩
  | cons opening rest ih =>
    have hslots : before.map (·.slot) ++ [opening.slot] = (before ++ [opening]).map (·.slot) := by simp
    simp only [greedy]
    generalize hb : Option.get _ _ = best
    have hbest := Option.mem_def.mpr (hb ▸ (Option.some_get _).symm)
    rw [hslots] at hbest ⊢
    have hmem : best ∈ opening.options := (explorer py).mem_explore.mp (List.argmin_mem hbest)
    obtain ⟨hfills, hbuilds⟩ :=
      ih (before ++ [opening]) (chosen ++ [best]) (ordered py opening.options rng).2 (hf.snoc hmem)
    exact ⟨by simpa using hfills, .place hbest hbuilds⟩

theorem localSearch_spec (costOnly : Bool) (rng : py.RandomState) {cheapest : Option Cheapest}
    (hc : ∀ c, cheapest = some c → IsCost py o openings c.cost) :
    let w := o.localSearch py openings (o.greedy py costOnly [] [] openings rng) cheapest
    Sound o openings w ∧ o.SearchReaches py costOnly openings rng (w.chosen, w.rng) := by
  obtain ⟨hfills, hbuilds⟩ := greedy_spec (o := o) costOnly [] openings [] rng .nil
  have hstart : Sound o openings
      (o.startWalk py (openings.map (·.slot)) (o.greedy py costOnly [] [] openings rng) cheapest) :=
    ⟨hfills, rfl, rfl, trackCheapest_isCost _ hc hfills⟩
  obtain ⟨hsound, hd⟩ := passes_spec maxPasses hstart
  exact ⟨hsound, _, hbuilds, hd⟩

theorem Sound.cost_eq (hs : Sound o openings w) :
    w.bestProv.costTotal py = o.costOf py (openings.map (·.slot)) w.chosen :=
  congrArg (Provision.costTotal py) hs.prov_eq

theorem varietyWalk_spec (o : PlanOptimizer) (openings : List Opening) (rng : py.RandomState) :
    Sound o openings (o.varietyWalk py openings rng) ∧
      o.SearchReaches py false openings rng
        ((o.varietyWalk py openings rng).chosen, (o.varietyWalk py openings rng).rng) :=
  localSearch_spec false rng (by simp)

theorem costWalk_spec (hs : Sound o openings w) :
    Sound o openings (o.costWalk py openings w) ∧
      o.SearchReaches py true openings w.rng ((o.costWalk py openings w).chosen, (o.costWalk py openings w).rng) :=
  localSearch_spec true w.rng hs.isCost

end Walks

/-! ### The outcome -/

section Outcome
variable {slots : List MealSlot} {feasible : MealSlot → List CandidateRecipeDTO}

theorem missingMealTypes_eq_nil_iff : missingMealTypes slots feasible = [] ↔ ∀ slot ∈ slots, feasible slot ≠ [] := by
  have hall : ∀ t : MealType, t ∈ [MealType.breakfast, .dinner, .lunch, .snack] := by
    intro t
    cases t <;> decide
  simp only [missingMealTypes, List.filter_eq_nil_iff, List.contains_iff_mem, List.mem_map, List.mem_filter,
    decide_eq_true_eq]
  constructor
  · exact fun h slot hs hnil => h slot.mealType (hall _) ⟨slot, ⟨hs, hnil⟩, rfl⟩
  · rintro h t - ⟨slot, ⟨hs, hnil⟩, -⟩
    exact h slot hs hnil

theorem openingsOf_cons {slot : MealSlot} (h : feasible slot ≠ []) : openingsOf (slot :: slots) feasible =
    { slot := slot, options := feasible slot, options_ne := h } :: openingsOf slots feasible := by
  simp [openingsOf, h]

theorem map_slot_openingsOf (h : ∀ slot ∈ slots, feasible slot ≠ []) :
    (openingsOf slots feasible).map (·.slot) = slots := by
  induction slots with
  | nil => rfl
  | cons slot rest ih =>
    rw [openingsOf_cons (h slot List.mem_cons_self), List.map_cons, ih fun s hs => h s (List.mem_cons_of_mem _ hs)]

theorem fills_openingsOf_iff (h : ∀ slot ∈ slots, feasible slot ≠ []) {chosen : List CandidateRecipeDTO} :
    Fills (explorer py) (openingsOf slots feasible) chosen ↔
      List.Forall₂ (fun slot recipe => recipe ∈ feasible slot) slots chosen := by
  induction slots generalizing chosen with
  | nil => simp [openingsOf, Fills]
  | cons slot rest ih =>
    rw [openingsOf_cons (h slot List.mem_cons_self)]
    cases chosen with
    | nil => simp [Fills]
    | cons recipe chosen =>
      have hrest : List.Forall₂ _ (openingsOf rest feasible) chosen ↔ _ :=
        ih fun s hs => h s (List.mem_cons_of_mem _ hs)
      rw [Fills, List.forall₂_cons, List.forall₂_cons, hrest]
      rfl

theorem optimize_missing {rng : py.RandomState} {slot : MealSlot} (hs : slot ∈ slots) (hnil : feasible slot = []) :
    o.optimize py slots feasible rng = .missing (missingMealTypes slots feasible) :=
  if_pos fun h => missingMealTypes_eq_nil_iff.mp h slot hs hnil

/-- With candidates for every slot, either the code finds what is selected, with its provision, or nothing is
    selected and the cheapest plan it saw is a whole one. -/
theorem optimize_cases (rng : py.RandomState) (h : ∀ slot ∈ slots, feasible slot ≠ []) :
    (∃ chosen score cheapest,
      o.optimize py slots feasible rng = .found chosen (o.provision py slots chosen) score false cheapest ∧
        List.Forall₂ (fun slot recipe => recipe ∈ feasible slot) slots chosen ∧
        o.Selects py (openingsOf slots feasible) rng chosen) ∨
    (∃ chosen prov score cheapest,
      o.optimize py slots feasible rng = .found chosen prov score true (some cheapest) ∧
        (∀ c, ¬o.Selects py (openingsOf slots feasible) rng c) ∧
        ∃ recipes, List.Forall₂ (fun slot recipe => recipe ∈ feasible slot) slots recipes ∧
          cheapest.cost = o.costOf py slots recipes) := by
  set openings := openingsOf slots feasible with hopenings
  have hslots : openings.map (·.slot) = slots := map_slot_openingsOf h
  obtain ⟨hw, hreach⟩ := varietyWalk_spec o openings rng
  obtain ⟨hw', hreach'⟩ := costWalk_spec hw
  have hopt : o.optimize py slots feasible rng = _ := if_neg (not_not.mpr (missingMealTypes_eq_nil_iff.mpr h))
  rw [hopt]
  dsimp only
  rw [← hopenings]
  generalize o.varietyWalk py openings rng = walk at *
  generalize o.costWalk py openings walk = fit at *
  by_cases hover : o.budgetLimit py < walk.bestProv.costTotal py
  · by_cases hfit : fit.bestProv.costTotal py ≤ o.budgetLimit py
    · refine .inl ⟨fit.chosen, fit.bestScore, fit.cheapest, ?_, (fills_openingsOf_iff h).mp hw'.fills, ?_⟩
      · rw [if_pos hover, if_pos hfit, hw'.prov_eq, hslots]
      · exact ⟨walk.chosen, walk.rng, hreach, .inr ⟨hw.cost_eq ▸ hover, hw'.cost_eq ▸ hfit, fit.rng, hreach'⟩⟩
    · obtain ⟨cheapest, hc, recipes, hfills, hcost⟩ := hw'.seen
      refine .inr ⟨walk.chosen, walk.bestProv, walk.bestScore, cheapest, ?_, ?_, recipes,
        (fills_openingsOf_iff h).mp hfills, hslots ▸ hcost⟩
      · rw [if_pos hover, if_neg hfit, hc]
      · rintro c ⟨first, rng', hfirst, hc⟩
        obtain ⟨rfl, rfl⟩ := Prod.mk.inj (hreach.unique hfirst)
        rcases hc with ⟨rfl, hle⟩ | ⟨-, hle, rng'', hsecond⟩
        · exact absurd (hw.cost_eq ▸ hover) (not_lt.mpr hle)
        · obtain ⟨rfl, rfl⟩ := Prod.mk.inj (hreach'.unique hsecond)
          exact hfit (hw'.cost_eq ▸ hle)
  · refine .inl ⟨walk.chosen, walk.bestScore, walk.cheapest, ?_, (fills_openingsOf_iff h).mp hw.fills, ?_⟩
    · rw [if_neg hover, hw.prov_eq, hslots]
    · exact ⟨walk.chosen, walk.rng, hreach, .inl ⟨rfl, hw.cost_eq ▸ not_lt.mp hover⟩⟩

end Outcome
end CestaPlan.Engine.PlanOptimizer
