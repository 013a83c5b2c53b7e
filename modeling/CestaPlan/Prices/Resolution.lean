import CestaPlan.Engine.Runtime
import CestaPlan.Library.Selection
import CestaPlan.Prices.PriceScope
import Mathlib.Data.Prod.Lex

/-! The selection of one price out of many observations of a product (`services/price_resolution.py`), and when the order of the
    observations does not decide it.

    Usability and level read one observation at a time, and the conflict reads the amounts of a whole level. Only the priority of the
    last step may tie, and then the first observation of the list is taken. -/

namespace CestaPlan.Prices.Resolution
open History Selection
open Engine (Runtime)

inductive FreshnessState where
  | fresh | aging | stale | expired | missing | conflicting | quarantined
deriving DecidableEq, Repr

structure Settings where
  priceFreshHours : Int := 24
  priceAgingHours : Int := 48
  priceExpiredHours : Int := 168

/-- The floats of an age. -/
structure Floats where
  /-- `delta.total_seconds() / 3600.0`, for a delta in microseconds. -/
  hours : Int → ℚ
  /-- `round(x, 2)` -/
  round2 : ℚ → ℚ

/-- `_MATERIAL_DIFF` -/
def materialDiff : ℚ := 15 / 100

/-- `_SCOPE_RANK` -/
def scopeLevel : PriceScope → Option ℕ
  | .exactStore => some 1
  | .deliveryZone => some 2
  | .postalCode => some 3
  | .municipality => some 4
  | .province => some 5
  | .region => some 6
  | .national => some 7
  | .unknown => none

/-- `_VERIFICATION_RANK` -/
def verificationRank : List (String × ℕ) :=
  [("manually_verified", 3), ("automatically_validated", 2), ("provider_reported", 1)]

def classifyFreshness (ageHours : ℚ) (settings : Settings) : FreshnessState :=
  if ageHours < settings.priceFreshHours then .fresh
  else if ageHours < settings.priceAgingHours then .aging
  else if ageHours < settings.priceExpiredHours then .stale
  else .expired

structure ObservationView where
  amount : ℚ
  priceType : String
  priceScope : PriceScope
  retailer : String
  sourceProvider : String
  observedAt : Instant
  confidenceScore : ℚ := 1
  verificationStatus : String := "provider_reported"
  storeId : Option String := none
  authorized : Bool := false
  verifiableEvidence : Bool := false
  isCommunity : Bool := false
  quarantined : Bool := false
deriving DecidableEq

structure ResolutionRequest where
  now : Instant
  allowStale : Bool := false
  allowEstimated : Bool := false
  allowCommunity : Bool := false

structure Alternative where
  amount : ℚ
  priceScope : String
  retailer : String
  sourceProvider : String
  ageHours : ℚ
  confidenceScore : ℚ
deriving DecidableEq

structure PriceResolution where
  selectedPrice : Option ℚ := none
  priceType : Option String := none
  priceScope : Option String := none
  retailer : Option String := none
  storeId : Option String := none
  sourceProvider : Option String := none
  observedAt : Option Instant := none
  ageHours : Option ℚ := none
  confidenceScore : Option ℚ := none
  verificationStatus : Option String := none
  freshness : FreshnessState := .missing
  fallbackLevel : Option ℕ := none
  resolutionReason : String := "no_observation"
  alternatives : List Alternative := []
  warnings : List String := []
deriving DecidableEq

/-- `_level` -/
def level (o : ObservationView) : ℕ :=
  if o.priceType = "estimated" then 10
  else if o.priceType = "manual" then 9
  else if o.isCommunity then 8
  else (scopeLevel o.priceScope).getD 11

/-- The key of `_prioritize`. -/
def priority (o : ObservationView) : Bool ×ₗ ℚ ×ₗ ℕ ×ₗ Bool ×ₗ Int :=
  toLex (o.authorized, toLex (o.confidenceScore, toLex ((verificationRank.lookup o.verificationStatus).getD 0,
    toLex (o.verifiableEvidence, o.observedAt))))

/-- The order of the sort, with the largest key first. -/
def Before (a b : ObservationView) : Prop := priority b ≤ priority a

instance (a b : ObservationView) : Decidable (Before a b) := inferInstanceAs (Decidable (_ ≤ _))

instance : Std.Total Before where
  total a b := le_total (priority b) (priority a)

instance : IsTrans ObservationView Before where
  trans _ _ _ hab hbc := le_trans hbc hab

section Resolve
variable (py : Runtime) (fl : Floats) (settings : Settings) (request : ResolutionRequest)

/-- `_age_hours` -/
def ageHours (o : ObservationView) (now : Instant) : ℚ := max 0 (fl.hours (now - o.observedAt))

/-- What the loop of `resolve` keeps. -/
def usable (o : ObservationView) : Bool :=
  if o.quarantined then false
  else
    let freshness := classifyFreshness (ageHours fl o request.now) settings
    if freshness = .expired then false
    else if freshness = .stale && !request.allowStale then false
    else if o.priceType = "estimated" && !request.allowEstimated then false
    else !(o.isCommunity && !request.allowCommunity)

def materialConflict (tier : List ObservationView) : Bool :=
  if tier.length < 2 then false
  else match (tier.map (·.amount)).min?, (tier.map (·.amount)).max? with
    | some low, some high => if low ≤ 0 then 0 < high else materialDiff < py.div (py.sub high low) low
    | _, _ => false

def prioritize (tier : List ObservationView) : Option ObservationView := first Before tier

def alt (now : Instant) (o : ObservationView) : Alternative where
  amount := o.amount
  priceScope := o.priceScope.value
  retailer := o.retailer
  sourceProvider := o.sourceProvider
  ageHours := fl.round2 (ageHours fl o now)
  confidenceScore := o.confidenceScore

def build (chosen : ObservationView) (tier : List ObservationView) (level : ℕ) : PriceResolution :=
  let age := ageHours fl chosen request.now
  let freshness := classifyFreshness age settings
  { selectedPrice := some chosen.amount
    priceType := some chosen.priceType
    priceScope := some chosen.priceScope.value
    retailer := some chosen.retailer
    storeId := chosen.storeId
    sourceProvider := some chosen.sourceProvider
    observedAt := some chosen.observedAt
    ageHours := some (fl.round2 age)
    confidenceScore := some chosen.confidenceScore
    verificationStatus := some chosen.verificationStatus
    freshness := freshness
    fallbackLevel := some level
    resolutionReason := "selected at scope level " ++ toString level
    alternatives := (tier.erase chosen).map (alt fl request.now)
    warnings := (if freshness = .aging then ["price is aging (>fresh threshold)"] else []) ++
      (if freshness = .stale then ["stale price used (allowed by request)"] else []) }

def resolve (observations : List ObservationView) : PriceResolution :=
  if observations = [] then {}
  else
    let kept := observations.filter (usable fl settings request)
    match (kept.map level).min? with
    | none =>
      { resolutionReason := "no_usable_observation"
        warnings := ["all observations expired/quarantined or disallowed by policy"] }
    | some bestLevel =>
      let tier := kept.filter (level · = bestLevel)
      if materialConflict py tier then
        { freshness := .conflicting
          fallbackLevel := some bestLevel
          resolutionReason := "conflicting_sources_same_scope"
          warnings := ["material price conflict in the winning scope; not auto-selected"]
          alternatives := tier.map (alt fl request.now) }
      else match prioritize tier with
        | some chosen => build fl settings request chosen tier bestLevel
        -- The level is that of some observation, so the tier is never empty.
        | none => {}

end Resolve

/-- Two resolutions select the same price, store and source, or report the same conflict. -/
structure SameSelection (a b : PriceResolution) : Prop where
  price : a.selectedPrice = b.selectedPrice
  store : a.storeId = b.storeId
  source : a.sourceProvider = b.sourceProvider
  level : a.fallbackLevel = b.fallbackLevel
  conflicting : a.freshness = .conflicting ↔ b.freshness = .conflicting
  reported : a.freshness = .conflicting → a.alternatives.Perm b.alternatives

section Property
variable (py : Runtime) (fl : Floats) (settings : Settings) (request : ResolutionRequest) (observations : List ObservationView)

/-- Quarantined, expired, disallowed by the request, or of a worse level than some usable observation. -/
def Disregarded (o : ObservationView) : Prop :=
  usable fl settings request o = false ∨ ∃ u ∈ observations, usable fl settings request u = true ∧ level u < level o

/-- The selection depends neither on the order of the observations nor on those that are disregarded. -/
structure OrderFree : Prop where
  permuted : ∀ reordered, reordered.Perm observations →
    SameSelection (resolve py fl settings request reordered) (resolve py fl settings request observations)
  extended : ∀ before after o, observations = before ++ after → Disregarded fl settings request observations o →
    SameSelection (resolve py fl settings request (before ++ o :: after)) (resolve py fl settings request observations)

/-- The usable observations of the best level. -/
def rivals : List ObservationView :=
  observations.filter fun o => usable fl settings request o &&
    observations.all fun u => !usable fl settings request u || level o ≤ level u

/-- The rivals that no rival has priority over. -/
def Top (o : ObservationView) : Prop :=
  o ∈ rivals fl settings request observations ∧ ∀ u ∈ rivals fl settings request observations, Before o u

/-- The rivals conflict, or those that tie at the top agree on price, store and source. -/
def Agreed : Prop :=
  materialConflict py (rivals fl settings request observations) = true ∨
    ∀ a b, Top fl settings request observations a → Top fl settings request observations b →
      a.amount = b.amount ∧ a.storeId = b.storeId ∧ a.sourceProvider = b.sourceProvider

end Property

section Lemmas
variable {py : Runtime} {fl : Floats} {settings : Settings} {request : ResolutionRequest}
  {observations reordered : List ObservationView} {o a b chosen : ObservationView}

theorem mem_rivals : o ∈ rivals fl settings request observations ↔ o ∈ observations ∧ usable fl settings request o = true ∧
    ∀ u ∈ observations, usable fl settings request u = true → level o ≤ level u := by
  simp only [rivals, List.mem_filter, Bool.and_eq_true, List.all_eq_true, Bool.or_eq_true, Bool.not_eq_true', decide_eq_true_eq,
    ← Bool.not_eq_true, or_iff_not_imp_left, not_not]

theorem rivals_perm (h : reordered.Perm observations) :
    (rivals fl settings request reordered).Perm (rivals fl settings request observations) := by
  unfold rivals
  have hall : (fun o => usable fl settings request o && reordered.all fun u => !usable fl settings request u || level o ≤ level u) =
      fun o => usable fl settings request o && observations.all fun u => !usable fl settings request u || level o ≤ level u :=
    funext fun o => congrArg _ h.all_eq
  rw [hall]
  exact h.filter _

theorem rivals_insert {before after : List ObservationView} (h : Disregarded fl settings request (before ++ after) o) :
    rivals fl settings request (before ++ o :: after) = rivals fl settings request (before ++ after) := by
  have hout : (usable fl settings request o && (before ++ o :: after).all fun u =>
      !usable fl settings request u || level o ≤ level u) = false := by
    rcases h with h | ⟨u, hu, husable, hlt⟩
    · rw [h, Bool.false_and]
    · refine Bool.eq_false_iff.mpr fun htrue => ?_
      have hall := List.all_eq_true.mp (Bool.and_eq_true_iff.mp htrue).2 u (by simp at hu ⊢; tauto)
      rw [husable, Bool.not_true, Bool.false_or, decide_eq_true_eq] at hall
      exact absurd hlt (not_lt.mpr hall)
  have hsame : ∀ a, (usable fl settings request a && (before ++ o :: after).all fun u =>
      !usable fl settings request u || level a ≤ level u) =
      (usable fl settings request a && (before ++ after).all fun u => !usable fl settings request u || level a ≤ level u) := by
    intro a
    refine congrArg _ (Bool.eq_iff_iff.mpr ?_)
    simp only [List.all_eq_true]
    refine ⟨fun hall u hu => hall u (by simp at hu ⊢; tauto), fun hall u hu => ?_⟩
    by_cases hin : u ∈ before ++ after
    · exact hall u hin
    · obtain rfl : u = o := by simp at hu hin; tauto
      rcases h with h | ⟨v, hv, husable, hlt⟩
      · rw [h, Bool.not_false, Bool.true_or]
      · have hle := hall v hv
        rw [husable, Bool.not_true, Bool.false_or, decide_eq_true_eq] at hle
        rw [decide_eq_true (hle.trans hlt.le), Bool.or_true]
  unfold rivals
  rw [List.filter_append, List.filter_cons_of_neg (by rw [hout]; exact Bool.false_ne_true), ← List.filter_append]
  exact List.filter_congr fun a _ => hsame a

theorem filter_level_eq_rivals {u : ObservationView} (hu : u ∈ observations) (husable : usable fl settings request u = true)
    (hleast : ∀ v ∈ observations, usable fl settings request v = true → level u ≤ level v) :
    (observations.filter (usable fl settings request)).filter (level · = level u) = rivals fl settings request observations := by
  unfold rivals
  rw [List.filter_filter]
  refine List.filter_congr fun o ho => Bool.eq_iff_iff.mpr ?_
  simp only [Bool.and_eq_true, decide_eq_true_eq, List.all_eq_true, Bool.or_eq_true, Bool.not_eq_true']
  constructor
  · rintro ⟨hlevel, ho'⟩
    refine ⟨ho', fun v hv => ?_⟩
    by_cases hvu : usable fl settings request v = true
    · exact .inr (hlevel ▸ hleast v hv hvu)
    · exact .inl (Bool.not_eq_true _ ▸ hvu)
  · rintro ⟨ho', hall⟩
    exact ⟨le_antisymm ((hall u hu).resolve_left (by simp [husable])) (hleast o ho ho'), ho'⟩

variable (py) in
theorem materialConflict_perm {tier tier' : List ObservationView} (h : tier'.Perm tier) :
    materialConflict py tier' = materialConflict py tier := by
  have hmin : (tier'.map (·.amount)).min? = (tier.map (·.amount)).min? := by
    refine Option.ext fun low => ?_
    rw [List.min?_eq_some_iff, List.min?_eq_some_iff, (h.map _).mem_iff]
    exact and_congr_right fun _ => forall_congr' fun x => imp_congr_left (h.map _).mem_iff
  have hmax : (tier'.map (·.amount)).max? = (tier.map (·.amount)).max? := by
    refine Option.ext fun high => ?_
    rw [List.max?_eq_some_iff, List.max?_eq_some_iff, (h.map _).mem_iff]
    exact and_congr_right fun _ => forall_congr' fun x => imp_congr_left (h.map _).mem_iff
  unfold materialConflict
  rw [h.length_eq, hmin, hmax]

theorem classifyFreshness_ne_conflicting (age : ℚ) : classifyFreshness age settings ≠ .conflicting := by
  unfold classifyFreshness
  split_ifs <;> decide

variable (py fl settings request observations) in
theorem resolve_cases :
    (rivals fl settings request observations = [] ∧ ∃ reason warnings,
      resolve py fl settings request observations = { resolutionReason := reason, warnings := warnings }) ∨
    (materialConflict py (rivals fl settings request observations) = true ∧
      ∃ bestLevel, (∀ o ∈ rivals fl settings request observations, level o = bestLevel) ∧
        ∃ reason warnings, resolve py fl settings request observations =
          { freshness := .conflicting
            fallbackLevel := some bestLevel
            resolutionReason := reason
            warnings := warnings
            alternatives := (rivals fl settings request observations).map (alt fl request.now) }) ∨
    (materialConflict py (rivals fl settings request observations) = false ∧
      ∃ bestLevel, (∀ o ∈ rivals fl settings request observations, level o = bestLevel) ∧
        ∃ chosen, prioritize (rivals fl settings request observations) = some chosen ∧
          resolve py fl settings request observations =
            build fl settings request chosen (rivals fl settings request observations) bestLevel) := by
  unfold resolve
  by_cases hnil : observations = []
  · rw [if_pos hnil]
    exact .inl ⟨by rw [hnil]; rfl, _, _, rfl⟩
  rw [if_neg hnil]
  dsimp only
  cases hbest : ((observations.filter (usable fl settings request)).map level).min? with
  | none =>
    rw [List.min?_eq_none_iff, List.map_eq_nil_iff] at hbest
    refine .inl ⟨List.eq_nil_iff_forall_not_mem.mpr fun o ho => ?_, _, _, rfl⟩
    obtain ⟨hmem, husable, -⟩ := mem_rivals.mp ho
    exact absurd (List.mem_filter.mpr ⟨hmem, husable⟩) (hbest ▸ List.not_mem_nil)
  | some bestLevel =>
    obtain ⟨hmem, hle⟩ := List.min?_eq_some_iff.mp hbest
    obtain ⟨u, hu, rfl⟩ := List.mem_map.mp hmem
    obtain ⟨hu, husable⟩ := List.mem_filter.mp hu
    have hleast : ∀ v ∈ observations, usable fl settings request v = true → level u ≤ level v := fun v hv hvu =>
      hle _ (List.mem_map_of_mem (List.mem_filter.mpr ⟨hv, hvu⟩))
    have htier := filter_level_eq_rivals hu husable hleast
    have hlevel : ∀ o ∈ rivals fl settings request observations, level o = level u := by
      intro o ho
      rw [← htier, List.mem_filter, decide_eq_true_eq] at ho
      exact ho.2
    dsimp only
    rw [htier]
    right
    by_cases hconflict : materialConflict py (rivals fl settings request observations) = true
    · exact .inl ⟨hconflict, level u, hlevel, _, _, if_pos hconflict⟩
    · obtain ⟨chosen, hchosen, -⟩ := first_precedes (r := Before) (mem_rivals.mpr ⟨hu, husable, hleast⟩)
      refine .inr ⟨Bool.not_eq_true _ ▸ hconflict, level u, hlevel, chosen, hchosen, ?_⟩
      rw [if_neg hconflict, show prioritize _ = some chosen from hchosen]

/-- The selection is read off the rivals: their order matters only where several are first under the priority. -/
theorem sameSelection_of_rivals
    (hperm : (rivals fl settings request reordered).Perm (rivals fl settings request observations))
    (hagree : materialConflict py (rivals fl settings request observations) = true ∨
      ∀ a b, prioritize (rivals fl settings request reordered) = some a →
        prioritize (rivals fl settings request observations) = some b →
        a.amount = b.amount ∧ a.storeId = b.storeId ∧ a.sourceProvider = b.sourceProvider) :
    SameSelection (resolve py fl settings request reordered) (resolve py fl settings request observations) := by
  have hconf := materialConflict_perm py hperm
  rcases resolve_cases py fl settings request observations with
    ⟨hnil, reason, warnings, heq⟩ | ⟨hconflict, best, hbest, reason, warnings, heq⟩ | ⟨hconflict, best, hbest, b, hb, heq⟩ <;>
  rcases resolve_cases py fl settings request reordered with
    ⟨hnil', reason', warnings', heq'⟩ | ⟨hconflict', best', hbest', reason', warnings', heq'⟩ |
      ⟨hconflict', best', hbest', a, ha, heq'⟩
  · rw [heq, heq']
    exact ⟨rfl, rfl, rfl, rfl, Iff.rfl, fun _ => .refl _⟩
  · rw [hconf, hnil] at hconflict'
    cases hconflict'
  · rw [hnil] at hperm
    rw [hperm.eq_nil] at ha
    cases ha
  · rw [hnil'] at hperm
    rw [hperm.nil_eq.symm] at hconflict
    cases hconflict
  · rw [heq, heq']
    obtain ⟨o, ho⟩ : ∃ o, o ∈ rivals fl settings request observations := by
      refine List.exists_mem_of_ne_nil _ fun hnil => ?_
      rw [hnil] at hconflict
      cases hconflict
    exact ⟨rfl, rfl, rfl, congrArg some ((hbest' o (hperm.mem_iff.mpr ho)).symm.trans (hbest o ho)), Iff.rfl, fun _ => hperm.map _⟩
  · rw [hconf, hconflict] at hconflict'
    cases hconflict'
  · rw [hnil'] at hperm
    rw [hperm.nil_eq.symm] at hb
    cases hb
  · rw [hconf, hconflict] at hconflict'
    cases hconflict'
  · obtain ⟨hamount, hstore, hsource⟩ := (hagree.resolve_left (by rw [hconflict]; exact Bool.false_ne_true)) a b ha hb
    rw [heq, heq']
    exact ⟨congrArg some hamount, hstore, congrArg some hsource,
      congrArg some ((hbest' b (hperm.mem_iff.mpr (first_mem hb))).symm.trans (hbest b (first_mem hb))),
      iff_of_false (classifyFreshness_ne_conflicting _) (classifyFreshness_ne_conflicting _),
      fun h => absurd h (classifyFreshness_ne_conflicting _)⟩

theorem top_of_prioritize (h : prioritize (rivals fl settings request observations) = some a) :
    Top fl settings request observations a := by
  refine ⟨first_mem h, fun u hu => ?_⟩
  obtain ⟨b, hb, hle⟩ := first_precedes (r := Before) hu
  obtain rfl : b = a := Option.some.inj (hb.symm.trans h)
  rcases hle with rfl | hle
  · exact le_refl (priority b)
  · exact hle

theorem top_perm (h : reordered.Perm observations) :
    Top fl settings request reordered a ↔ Top fl settings request observations a := by
  unfold Top
  rw [(rivals_perm h).mem_iff]
  exact and_congr_right fun _ => forall_congr' fun u => imp_congr_left (rivals_perm h).mem_iff

theorem exists_perm_prioritize (h : Top fl settings request observations a) :
    ∃ reordered, reordered.Perm observations ∧ prioritize (rivals fl settings request reordered) = some a := by
  have hmem := (mem_rivals.mp h.1).1
  refine ⟨a :: observations.erase a, (List.perm_cons_erase hmem).symm, ?_⟩
  have htop := (top_perm (List.perm_cons_erase hmem).symm).mpr h
  obtain ⟨hrival, hbefore⟩ := htop
  obtain ⟨rest, hrest⟩ : ∃ rest, rivals fl settings request (a :: observations.erase a) = a :: rest := by
    unfold rivals at hrival ⊢
    exact ⟨_, List.filter_cons_of_pos (List.mem_filter.mp hrival).2⟩
  rw [hrest] at hbefore ⊢
  unfold prioritize
  rw [first_cons]
  cases hsecond : first Before rest with
  | none => rfl
  | some b => exact congrArg some (pick_left (hbefore b (List.mem_cons_of_mem _ (first_mem hsecond))))

end Lemmas

/-- Disregarded observations never change the selection, and its order does not either exactly if the rivals conflict or those at the
    top agree. -/
theorem orderFree_resolve_iff (py : Runtime) (fl : Floats) (settings : Settings) (request : ResolutionRequest)
    (observations : List ObservationView) :
    OrderFree py fl settings request observations ↔ Agreed py fl settings request observations := by
  constructor
  · intro h
    refine or_iff_not_imp_left.mpr fun hconflict a b ha hb => ?_
    -- An order that selects `o` fixes what every order selects.
    have hselected : ∀ o, Top fl settings request observations o →
        (resolve py fl settings request observations).selectedPrice = some o.amount ∧
          (resolve py fl settings request observations).storeId = o.storeId ∧
          (resolve py fl settings request observations).sourceProvider = some o.sourceProvider := by
      intro o ho
      obtain ⟨reordered, hperm, hfirst⟩ := exists_perm_prioritize ho
      have hsame := h.permuted reordered hperm
      have hconf := materialConflict_perm py (@rivals_perm fl settings request _ _ hperm)
      rcases resolve_cases py fl settings request reordered with
        ⟨hnil, -⟩ | ⟨hconflict', -⟩ | ⟨-, best, -, chosen, hchosen, heq⟩
      · rw [hnil] at hfirst
        cases hfirst
      · exact absurd (hconf.symm.trans hconflict') hconflict
      · obtain rfl : chosen = o := Option.some.inj (hchosen.symm.trans hfirst)
        rw [heq] at hsame
        exact ⟨hsame.price.symm, hsame.store.symm, hsame.source.symm⟩
    obtain ⟨hamount, hstore, hsource⟩ := hselected a ha
    obtain ⟨hamount', hstore', hsource'⟩ := hselected b hb
    exact ⟨Option.some.inj (hamount.symm.trans hamount'), hstore.symm.trans hstore', Option.some.inj (hsource.symm.trans hsource')⟩
  · intro h
    constructor
    · intro reordered hperm
      refine sameSelection_of_rivals (rivals_perm hperm) (h.imp_right fun htops a b ha hb => ?_)
      exact htops a b ((top_perm hperm).mp (top_of_prioritize ha)) (top_of_prioritize hb)
    · rintro before after o rfl hout
      have hrivals := rivals_insert hout
      refine sameSelection_of_rivals (hrivals ▸ .refl _) (.inr fun a b ha hb => ?_)
      rw [hrivals] at ha
      obtain rfl : a = b := Option.some.inj (ha.symm.trans hb)
      exact ⟨rfl, rfl, rfl⟩

/-- A litre of milk at noon, as two stores of a chain report it. -/
def milkAt (store : String) (amount : ℚ) : ObservationView where
  amount := amount
  priceType := "regular"
  priceScope := .exactStore
  retailer := "dia"
  sourceProvider := "parsebot-dia"
  observedAt := 0
  storeId := some store

/-- Two stores report amounts that differ by a tenth at one instant; the first of the list is taken. -/
theorem not_orderFree_twoStores : ¬∀ (py : Runtime) (fl : Floats) (settings : Settings) (request : ResolutionRequest)
    (observations : List ObservationView), OrderFree py fl settings request observations := by
  intro h
  have hsame := (h (Runtime.replay []) ⟨fun delta => delta / (3600 * 10 ^ 6), id⟩ {} { now := 0 }
    [milkAt "centro" 1, milkAt "norte" (11 / 10)]).permuted [milkAt "norte" (11 / 10), milkAt "centro" 1] (List.Perm.swap _ _ _)
  exact absurd hsame.price (by decide +kernel)

end CestaPlan.Prices.Resolution
