import CestaPlan.Engine.LimitSearch
import Mathlib.Data.List.Lex
import Mathlib.Order.WellFoundedSet

/-! The local search ends by itself. Every swap lowers the score, or keeps it and lowers the vector of the ids, so no assignment is
    accepted twice, and there are finitely many. -/

namespace CestaPlan.Engine
namespace PlanOptimizer
open LocalSearch

section Definitions
variable (py : Runtime) (o : PlanOptimizer)

/-- The assignments that are accepted where the places are visited. -/
def acceptedIn (slots : List MealSlot) : List (Opening × ℕ) → Walk py → List (List CandidateRecipeDTO)
  | [], _ => []
  | place :: places, w =>
    let t := o.visit py slots (w, false) place
    if t.2 then t.1.chosen :: acceptedIn slots places t.1 else acceptedIn slots places t.1

/-- The assignments that are accepted in at most so many passes. -/
def acceptedAlong (openings : List Opening) : ℕ → Walk py → List (List CandidateRecipeDTO)
  | 0, _ => []
  | n + 1, w =>
    acceptedIn py o (openings.map (·.slot)) openings.zipIdx w ++
      if (o.pass py openings w).2 then acceptedAlong openings n (o.pass py openings w).1 else []

/-- The passes without a cap, up to the first without an improvement. -/
inductive Ends (openings : List Opening) : Walk py → Walk py → Prop
  | settled {w : Walk py} (h : (o.pass py openings w).2 = false) : Ends openings w (o.pass py openings w).1
  | again {w w' : Walk py} (h : (o.pass py openings w).2 = true) (next : Ends openings (o.pass py openings w).1 w') : Ends openings w w'

/-- What every swap lowers. -/
def rank (slots : List MealSlot) (chosen : List CandidateRecipeDTO) : ℚ ×ₗ List String :=
  toLex (o.scoreOf py slots chosen, chosen.map (·.recipeId))

/-- The search without a cap ends, as does every search with enough passes; no search accepts an assignment twice, or one that it
    began with; and what a search returns is of the assignment that it returns, and no worse than the seed. -/
structure Sinks (openings : List Opening) (seed : List CandidateRecipeDTO × py.RandomState) (cheapest : Option Cheapest) : Prop where
  ends : ∃ w, Ends py o openings (o.startWalk py (openings.map (·.slot)) seed cheapest) w ∧
    ∃ n, ∀ m, n ≤ m → o.passes py openings m (o.startWalk py (openings.map (·.slot)) seed cheapest) = w
  distinct : ∀ n, (seed.1 :: acceptedAlong py o openings n (o.startWalk py (openings.map (·.slot)) seed cheapest)).Nodup
  score_le : ∀ n, (o.passes py openings n (o.startWalk py (openings.map (·.slot)) seed cheapest)).bestScore ≤
    o.scoreOf py (openings.map (·.slot)) seed.1
  carried : ∀ n, Carries o (openings.map (·.slot)) (o.passes py openings n (o.startWalk py (openings.map (·.slot)) seed cheapest))

end Definitions

section Descent
variable {py : Runtime} {o : PlanOptimizer} {slots : List MealSlot} {openings : List Opening} {w w' : Walk py}
  {chosen : List CandidateRecipeDTO} {i : ℕ} {recipe current : CandidateRecipeDTO}

theorem set_lt {α : Type} [LinearOrder α] {l : List α} {a b : α} (hb : l[i]? = some b) (h : a < b) : l.set i a < l := by
  induction l generalizing i with
  | nil => cases hb
  | cons c l ih =>
    cases i with
    | zero =>
      obtain rfl : c = b := Option.some.inj hb
      exact List.cons_lt_cons_iff.mpr (.inl h)
    | succ i => exact List.cons_lt_cons_iff.mpr (.inr ⟨rfl, ih hb⟩)

theorem rank_of_accepts (h : o.accepts py slots chosen i recipe = true) :
    rank py o slots (chosen.set i recipe) < rank py o slots chosen := by
  obtain ⟨current, hcurrent, hboth⟩ := (Option.any_eq_true ..).mp h
  have hlt := of_decide_eq_true (Bool.and_eq_true_iff.mp hboth).2
  refine Prod.Lex.lt_iff.mpr ((Prod.Lex.lt_iff.mp hlt).imp_right fun hsame => ⟨hsame.1, ?_⟩)
  show (chosen.set i recipe).map (·.recipeId) < chosen.map (·.recipeId)
  rw [List.map_set]
  exact set_lt (by rw [List.getElem?_map, hcurrent]; rfl) hsame.2

theorem trySwap_moved (options : List CandidateRecipeDTO) (hw : Carries o slots w) (hcur : w.chosen[i]? = some current) :
    (o.trySwap py slots i current options w).2 = (options.find? (o.accepts py slots w.chosen i)).isSome := by
  induction options generalizing w with
  | nil => rfl
  | cons recipe rest ih =>
    rcases trySwap_cons recipe rest hcur hw.score_eq with ⟨hacc, heq⟩ | ⟨hacc, cheapest, -, heq⟩
    · rw [heq, List.find?_cons_of_pos hacc]
      rfl
    · rw [heq, List.find?_cons_of_neg (by simp [hacc])]
      exact @ih { w with cheapest := cheapest } ⟨hw.prov_eq, hw.score_eq⟩ hcur

theorem visit_moved (state : Walk py × Bool) (place : Opening × ℕ) (hw : Carries o slots state.1) :
    (o.visit py slots state place).2 = (state.2 ||
      ((ordered py place.1.options state.1.rng).1.find? (o.accepts py slots state.1.chosen place.2)).isSome) := by
  cases hcur : state.1.chosen[place.2]? with
  | none =>
    have hnone : (ordered py place.1.options state.1.rng).1.find? (o.accepts py slots state.1.chosen place.2) = none :=
      List.find?_eq_none.mpr fun recipe _ => by simp [accepts, hcur]
    simp only [visit, hcur, hnone]
    exact (Bool.or_false _).symm
  | some current =>
    simp only [visit, hcur]
    exact congrArg (state.2 || ·)
      (@trySwap_moved py o slots { state.1 with rng := (ordered py place.1.options state.1.rng).2 } _ _ _ ⟨hw.prov_eq, hw.score_eq⟩ hcur)

theorem visit_fst (w : Walk py) (moved : Bool) (place : Opening × ℕ) :
    (o.visit py slots (w, moved) place).1 = (o.visit py slots (w, false) place).1 := by
  unfold visit
  cases w.chosen[place.2]? <;> rfl

theorem visit_cases (w : Walk py) (place : Opening × ℕ) (hw : Carries o slots w) :
    ((o.visit py slots (w, false) place).2 = false ∧ (o.visit py slots (w, false) place).1.chosen = w.chosen) ∨
      ((o.visit py slots (w, false) place).2 = true ∧
        rank py o slots (o.visit py slots (w, false) place).1.chosen < rank py o slots w.chosen ∧
        ∃ recipe ∈ place.1.options, (o.visit py slots (w, false) place).1.chosen = w.chosen.set place.2 recipe) := by
  have hchosen := (visit_carries (w, false) place hw).2
  have hmoved := visit_moved (w, false) place hw
  cases hfound : (ordered py place.1.options w.rng).1.find? (o.accepts py slots w.chosen place.2) with
  | none =>
    rw [hfound] at hchosen hmoved
    exact .inl ⟨hmoved, hchosen⟩
  | some recipe =>
    rw [hfound] at hchosen hmoved
    refine .inr ⟨hmoved, hchosen ▸ rank_of_accepts (List.find?_some hfound), recipe, ?_, hchosen⟩
    exact (ordered_perm py place.1.options w.rng).mem_iff.mp (List.mem_of_find?_eq_some hfound)

/-- The assignment has the length of the seed, and its recipes are the seed's and the candidates. -/
def Pooled (openings : List Opening) (seed chosen : List CandidateRecipeDTO) : Prop :=
  chosen.length = seed.length ∧ ∀ recipe ∈ chosen, recipe ∈ seed ++ openings.flatMap (·.options)

variable {seed : List CandidateRecipeDTO}

theorem Pooled.set (h : Pooled openings seed chosen) {opening : Opening} (hopening : opening ∈ openings)
    (hrecipe : recipe ∈ opening.options) : Pooled openings seed (chosen.set i recipe) := by
  refine ⟨(List.length_set ..).trans h.1, fun r hr => ?_⟩
  rcases List.mem_or_eq_of_mem_set hr with hr | rfl
  · exact h.2 r hr
  · exact List.mem_append_right _ (List.mem_flatMap.mpr ⟨opening, hopening, hrecipe⟩)

theorem foldl_visit_falls (places : List (Opening × ℕ)) (hplaces : ∀ place ∈ places, place.1 ∈ openings) (moved : Bool)
    (hw : Carries o slots w) (hpool : Pooled openings seed w.chosen) :
    let t := places.foldl (o.visit py slots) (w, moved)
    Carries o slots t.1 ∧ Pooled openings seed t.1.chosen ∧
      Falls (rank py o slots) w.chosen (acceptedIn py o slots places w) t.1.chosen ∧
      t.2 = (moved || !(acceptedIn py o slots places w).isEmpty) := by
  induction places generalizing w moved with
  | nil => exact ⟨hw, hpool, .rest _, (Bool.or_false _).symm⟩
  | cons place places ih =>
    obtain ⟨hplace, hplaces⟩ := List.forall_mem_cons.mp hplaces
    have hfst := @visit_fst py o slots w moved place
    have hcarries := (visit_carries (w, false) place hw).1
    have hsnd := (visit_moved (w, moved) place hw).trans (congrArg (moved || ·) (visit_moved (w, false) place hw).symm)
    rw [List.foldl_cons, ← Prod.eta (o.visit py slots (w, moved) place), hfst, hsnd, acceptedIn]
    rcases visit_cases w place hw with ⟨hstay, hchosen⟩ | ⟨hmove, hlower, recipe, hrecipe, hchosen⟩
    · rw [hstay]
      obtain ⟨hcarries', hpool', hfalls, hmoved⟩ := ih hplaces (moved || false) hcarries (hchosen ▸ hpool)
      rw [hchosen] at hfalls
      exact ⟨hcarries', hpool', hfalls, by rw [hmoved, Bool.or_false]; rfl⟩
    · rw [hmove]
      obtain ⟨hcarries', hpool', hfalls, hmoved⟩ := ih hplaces (moved || true) hcarries (hchosen ▸ hpool.set hplace hrecipe)
      exact ⟨hcarries', hpool', .fall hlower hfalls, by rw [hmoved, Bool.or_true, if_pos rfl]; exact (Bool.or_true _).symm⟩

theorem pass_falls (hw : Carries o (openings.map (·.slot)) w) (hpool : Pooled openings seed w.chosen) :
    Carries o (openings.map (·.slot)) (o.pass py openings w).1 ∧ Pooled openings seed (o.pass py openings w).1.chosen ∧
      Falls (rank py o (openings.map (·.slot))) w.chosen (acceptedIn py o (openings.map (·.slot)) openings.zipIdx w)
        (o.pass py openings w).1.chosen ∧
      (o.pass py openings w).2 = !(acceptedIn py o (openings.map (·.slot)) openings.zipIdx w).isEmpty :=
  foldl_visit_falls openings.zipIdx (fun _ hplace => List.mem_of_getElem? (List.mem_zipIdx_iff_getElem?.mp hplace)) false hw hpool

theorem passes_falls (n : ℕ) (hw : Carries o (openings.map (·.slot)) w) (hpool : Pooled openings seed w.chosen) :
    Carries o (openings.map (·.slot)) (o.passes py openings n w) ∧
      Falls (rank py o (openings.map (·.slot))) w.chosen (acceptedAlong py o openings n w) (o.passes py openings n w).chosen := by
  induction n generalizing w with
  | zero => exact ⟨hw, .rest _⟩
  | succ n ih =>
    obtain ⟨hcarries, hpool', hfalls, -⟩ := pass_falls hw hpool
    rw [passes_succ, acceptedAlong]
    split
    · obtain ⟨hcarries', hfalls'⟩ := ih hcarries hpool'
      exact ⟨hcarries', hfalls.append hfalls'⟩
    · rw [List.append_nil]
      exact ⟨hcarries, hfalls⟩

theorem passes_end (hw : Carries o (openings.map (·.slot)) w) (hpool : Pooled openings seed w.chosen) :
    ∃ w', Ends py o openings w w' ∧ ∃ n, ∀ m, n ≤ m → o.passes py openings m w = w' := by
  have hfinite : {chosen | Pooled openings seed chosen}.Finite := finite_assignments _ _
  have hlower : IsStrictOrder _ (InvImage (· < ·) (rank py o (openings.map (·.slot)))) :=
    { irrefl := fun _ => lt_irrefl _, trans := fun _ _ _ => lt_trans }
  have hfounded : {chosen | Pooled openings seed chosen}.WellFoundedOn (InvImage (· < ·) (rank py o (openings.map (·.slot)))) :=
    hfinite.wellFoundedOn
  -- The induction is on the rank of the assignment.
  suffices hall : ∀ chosen, Pooled openings seed chosen → ∀ w : Walk py, Carries o (openings.map (·.slot)) w → w.chosen = chosen →
      ∃ w', Ends py o openings w w' ∧ ∃ n, ∀ m, n ≤ m → o.passes py openings m w = w' from hall w.chosen hpool w hw rfl
  refine fun chosen hchosen => @Set.WellFoundedOn.induction _ _ _ _ hfounded hchosen (fun chosen => ∀ w : Walk py,
    Carries o (openings.map (·.slot)) w → w.chosen = chosen →
      ∃ w', Ends py o openings w w' ∧ ∃ n, ∀ m, n ≤ m → o.passes py openings m w = w') ?_
  rintro _ hchosen ih w hw rfl
  obtain ⟨hcarries, hpool', hfalls, hmoved⟩ := pass_falls hw hchosen
  have hpasses (m : ℕ) (hm : 1 ≤ m) : ∃ k, m = k + 1 := ⟨m - 1, by omega⟩
  cases hflag : (o.pass py openings w).2 with
  | false =>
    refine ⟨_, .settled hflag, 1, fun m hm => ?_⟩
    obtain ⟨k, rfl⟩ := hpasses m hm
    rw [passes_succ, if_neg (by rw [hflag]; exact Bool.false_ne_true)]
  | true =>
    have hsome : acceptedIn py o (openings.map (·.slot)) openings.zipIdx w ≠ [] := fun hnil => by
      rw [hnil, hflag] at hmoved
      cases hmoved
    obtain ⟨w', hends, n, hn⟩ := ih _ hpool' (hfalls.lt_of_ne_nil hsome) _ hcarries rfl
    refine ⟨w', .again hflag hends, n + 1, fun m hm => ?_⟩
    obtain ⟨k, rfl⟩ := hpasses m (by omega)
    rw [passes_succ, if_pos hflag]
    exact hn k (by omega)

/-- The local search sinks, whatever the slots, candidates, weights, budget and seed. -/
theorem localSearch_sinks (o : PlanOptimizer) (openings : List Opening) (seed : List CandidateRecipeDTO × py.RandomState)
    (cheapest : Option Cheapest) : Sinks py o openings seed cheapest := by
  have hw := @startWalk_carries py o (openings.map (·.slot)) seed cheapest
  have hpool : Pooled openings seed.1 (o.startWalk py (openings.map (·.slot)) seed cheapest).chosen :=
    ⟨rfl, fun _ hr => List.mem_append_left _ hr⟩
  refine ⟨passes_end hw hpool, fun n => (passes_falls n hw hpool).2.nodup, fun n => ?_, fun n => (passes_falls n hw hpool).1⟩
  rw [(passes_falls n hw hpool).1.score_eq]
  exact Prod.Lex.monotone_fst _ _ (passes_falls n hw hpool).2.le

end Descent

end PlanOptimizer
end CestaPlan.Engine
