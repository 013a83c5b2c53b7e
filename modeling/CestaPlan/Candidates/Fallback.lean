import CestaPlan.Candidates.Proposals

/-! The provider that asks the model, and falls back on the library (`OpenAICandidateProvider.get_candidates`). The model may
    answer a call with any exception or any text, and the text may be anything. -/

namespace CestaPlan.Candidates
open Engine Catalog

/-! ### The calls -/

/-- What `json.loads` makes of a text. -/
inductive Json where
  | null
  | bool (value : Bool)
  | number (value : ℚ)
  | string (value : String)
  | array (items : List Json)
  | object (fields : List (String × Json))

inductive LoadFault where
  /-- `json.JSONDecodeError`. -/
  | decode
  /-- `TypeError`. -/
  | type
  /-- Any other exception: a number with too many digits, arrays nested too deep. -/
  | other
deriving DecidableEq, Repr

structure OpenAISettings where
  openaiModel : String := ""
  openaiMaxRetries : Int := 0

/-- One call of the client: its output or the text of its exception, and whether the row of the usage ledger failed to be
    flushed. The exception of the ledger is suppressed. -/
structure Reply (Raw : Type) where
  output : Except String Raw
  ledgerFailed : Bool := false

/-- How the calls ended, and whether the session is still usable. -/
structure Invocation (Raw : Type) where
  output : Except String Raw
  lost : Bool

structure Session where
  db : Database
  lost : Bool := false

/-- A session whose flush has failed refuses its statements until a rollback. -/
def Session.execute (session : Session) : Except Fault Database :=
  if session.lost then .error .pendingRollback else .ok session.db

section Provider
variable {Raw : Type} (loads : Raw → Except LoadFault Json) (validate : Json → Option OAIRecipe)

/-- The calls from an attempt on, of which so many may still fail. -/
def tryCalls (call : Nat → Reply Raw) : Nat → Nat → Bool → Invocation Raw
  | 0, attempt, lost => { output := (call attempt).output, lost := lost || (call attempt).ledgerFailed }
  | remaining + 1, attempt, lost =>
    match (call attempt).output with
    | .ok raw => { output := .ok raw, lost := lost || (call attempt).ledgerFailed }
    | .error _ => tryCalls call remaining (attempt + 1) (lost || (call attempt).ledgerFailed)

/-- `_invoke_with_retries`. -/
def invokeWithRetries (settings : OpenAISettings) (call : Nat → Reply Raw) : Invocation Raw :=
  tryCalls call (max 0 settings.openaiMaxRetries).toNat 0 false

/-- `_parse_recipes`. A recipe that does not validate is dropped. -/
def parseRecipes (raw : Raw) : Except Fault (Option (List OAIRecipe)) :=
  match loads raw with
  | .error .other => .error .loads
  | .error _ => .ok none
  | .ok (.object fields) =>
    match fields.lookup "recipes" with
    | some (.array items) => .ok (some (items.filterMap validate))
    | _ => .ok none
  | .ok _ => .ok none

/-- `_fallback`. -/
def fallback (session : Session) (request : CandidateRequest) (reason : String) :
    Except Fault (Database × CandidateBundle) := do
  let db ← session.execute
  let seeds ← buildSeedCandidates db request.requestedTypes none
  return (db, { candidates := seeds, warnings := [reason ++ "; usando recetas semilla."] })

/-- The query is made only for a list that is not empty. -/
def loadAllowed (session : Session) (allowList : List String) : Except Fault (Dict String Ingredient) :=
  if allowList.isEmpty then .ok Dict.empty
  else do
    let db ← session.execute
    return loadAllowedIngredients db allowList

/-- `self._settings.openai_model or None`. -/
def OpenAISettings.modelId (settings : OpenAISettings) : Option String :=
  if settings.openaiModel = "" then none else some settings.openaiModel

/-- What is made of the recipes of a response. -/
def propose (settings : OpenAISettings) (session : Session) (request : CandidateRequest) (recipes : List OAIRecipe) :
    Except Fault (Database × CandidateBundle) := do
  let allowed ← loadAllowed session request.allowList
  let persisted ← persistAccepted settings.modelId request recipes allowed session.db
  if persisted.2.isEmpty then
    fallback { session with db := persisted.1 } request "OpenAI no devolvió ninguna receta utilizable"
  else return (persisted.1, { candidates := persisted.2 })

/-- `OpenAICandidateProvider.get_candidates`. -/
def getCandidates (settings : OpenAISettings) (call : Nat → Reply Raw) (db : Database) (request : CandidateRequest) :
    Except Fault (Database × CandidateBundle) :=
  let invocation := invokeWithRetries settings call
  let session : Session := { db := db, lost := invocation.lost }
  match invocation.output with
  | .error exc => fallback session request ("OpenAI no disponible: " ++ exc)
  | .ok raw => do
    match ← parseRecipes loads validate raw with
    | none => fallback session request "OpenAI devolvió una respuesta no válida (JSON)"
    | some recipes => propose settings session request recipes

/-! ### The fallback and the library -/

/-- The recipes of the response of which an ingredient is known. -/
def usableRecipes (settings : OpenAISettings) (call : Nat → Reply Raw) (db : Database) (request : CandidateRequest) :
    List OAIRecipe :=
  match (invokeWithRetries settings call).output with
  | .error _ => []
  | .ok raw =>
    match parseRecipes loads validate raw with
    | .ok (some recipes) => recipes.filter fun parsed =>
        ∃ ing ∈ parsed.ingredients, Known db request.allowList ing.canonicalName
    | _ => []

/-- The provider does not raise, and without a usable recipe its candidates are those of the library's provider. -/
def MatchesSeeds (settings : OpenAISettings) (call : Nat → Reply Raw) (db : Database) (request : CandidateRequest) : Prop :=
  ∃ db' bundle, getCandidates loads validate settings call db request = .ok (db', bundle) ∧
    (usableRecipes loads validate settings call db request = [] →
      ∃ seeds, seedGetCandidates db request = .ok seeds ∧ bundle.candidates = seeds.candidates)

/-- Of the library's recipes with a requested type each one builds, and each one passes the check of the allow-list. -/
def LibraryPasses (db : Database) (request : CandidateRequest) : Prop :=
  ∀ recipe ∈ publicRecipes db, ofTypes request.requestedTypes recipe = true →
    recipe.WellFormed ∧ priceable (some request.allowList) recipe = true

/-- The columns take the row of a recipe of the response. -/
def Fits (settings : OpenAISettings) (db : Database) (request : CandidateRequest) (parsed : OAIRecipe) : Prop :=
  Storable db (acceptedRow settings.modelId request db.recipeSeq parsed
    (keptOf (loadAllowedIngredients db request.allowList) parsed))

/-- When the provider does as the library's: the ledger was written, the text is JSON or is refused as expected, and either
    every usable recipe fits or, without one, the whole library passes. -/
structure Behaves (settings : OpenAISettings) (call : Nat → Reply Raw) (db : Database) (request : CandidateRequest) :
    Prop where
  ledger : (invokeWithRetries settings call).lost = false
  text : ∀ raw, (invokeWithRetries settings call).output = .ok raw → loads raw ≠ .error .other
  recipes : ∀ parsed ∈ usableRecipes loads validate settings call db request, Fits settings db request parsed
  library : usableRecipes loads validate settings call db request = [] → LibraryPasses db request

end Provider

/-! ### The library -/

section Seeds
variable {db : Database} {request : CandidateRequest}

theorem seedGetCandidates_eq_ok {seeds : CandidateBundle} (h : seedGetCandidates db request = .ok seeds) :
    buildSeedCandidates db request.requestedTypes (some request.allowList) = .ok seeds.candidates := by
  obtain ⟨candidates, hcandidates, hreturn⟩ := Runs.bind_eq_ok.mp h
  cases hreturn
  exact hcandidates

theorem priceable_of_eq {requestedTypes : List String} {allowList : Option (List String)} {seeds : List CandidateRecipeDTO}
    (hall : buildSeedCandidates db requestedTypes none = .ok seeds)
    (hlist : buildSeedCandidates db requestedTypes allowList = .ok seeds) :
    ∀ recipe ∈ publicRecipes db, ofTypes requestedTypes recipe = true → priceable allowList recipe = true := by
  have hnone : ((publicRecipes db).filter (ofTypes requestedTypes)).filter (priceable none) =
      (publicRecipes db).filter (ofTypes requestedTypes) := List.filter_eq_self.mpr fun _ _ => rfl
  rw [buildSeedCandidates, hnone] at hall
  have hlength := (Runs.forall₂_of_mapM_eq_ok hall).length_eq.trans (Runs.forall₂_of_mapM_eq_ok hlist).length_eq.symm
  intro recipe hrecipe htypes
  exact List.length_filter_eq_length_iff.mp hlength.symm recipe (List.mem_filter.mpr ⟨hrecipe, htypes⟩)

theorem seeds_agree_iff :
    (∃ seeds, buildSeedCandidates db request.requestedTypes none = .ok seeds ∧
      ∃ bundle, seedGetCandidates db request = .ok bundle ∧ seeds = bundle.candidates) ↔ LibraryPasses db request := by
  constructor
  · rintro ⟨seeds, hseeds, bundle, hbundle, rfl⟩
    have hlist := seedGetCandidates_eq_ok hbundle
    intro recipe hrecipe htypes
    exact ⟨exists_buildSeedCandidates_iff.mp ⟨_, hseeds⟩ recipe hrecipe htypes rfl,
      priceable_of_eq hseeds hlist recipe hrecipe htypes⟩
  · intro hpasses
    obtain ⟨seeds, hseeds⟩ := exists_buildSeedCandidates_iff.mpr
      fun recipe hrecipe htypes _ => (hpasses recipe hrecipe htypes).1
    have hsame : buildSeedCandidates db request.requestedTypes (some request.allowList) =
        buildSeedCandidates db request.requestedTypes none := by
      unfold buildSeedCandidates
      refine congrArg (List.mapM (seedCandidate db)) (List.filter_congr fun recipe hrecipe => ?_)
      obtain ⟨hmem, htypes⟩ := List.mem_filter.mp hrecipe
      exact (hpasses recipe hmem htypes).2
    exact ⟨seeds, hseeds, { candidates := seeds }, Runs.bind_eq_ok.mpr ⟨seeds, hsame.trans hseeds, rfl⟩, rfl⟩

theorem fallback_agrees_iff {session : Session} {reason : String} (hdb : session.db = db) :
    (∃ db' bundle, fallback session request reason = .ok (db', bundle) ∧
      ∃ seeds, seedGetCandidates db request = .ok seeds ∧ bundle.candidates = seeds.candidates) ↔
      session.lost = false ∧ LibraryPasses db request := by
  rw [← seeds_agree_iff]
  constructor
  · rintro ⟨db', bundle, hfallback, hseeds⟩
    obtain ⟨found, hfound, hrest⟩ := Runs.bind_eq_ok.mp hfallback
    obtain ⟨candidates, hcandidates, hreturn⟩ := Runs.bind_eq_ok.mp hrest
    cases hreturn
    unfold Session.execute at hfound
    split at hfound
    · cases hfound
    · next hlost =>
      cases hfound
      rw [hdb] at hcandidates
      exact ⟨Bool.eq_false_iff.mpr hlost, candidates, hcandidates, hseeds⟩
  · rintro ⟨hlost, candidates, hcandidates, hseeds⟩
    refine ⟨db, { candidates := candidates, warnings := [reason ++ "; usando recetas semilla."] }, ?_, hseeds⟩
    have hexecute : session.execute = .ok db := by rw [Session.execute, hlost, hdb]; rfl
    exact Runs.bind_eq_ok.mpr ⟨db, hexecute, Runs.bind_eq_ok.mpr ⟨candidates, hcandidates, rfl⟩⟩

theorem not_fallback_of_lost {session : Session} {reason : String} (hlost : session.lost = true)
    {result : Database × CandidateBundle} : fallback session request reason ≠ .ok result := by
  intro h
  obtain ⟨found, hfound, -⟩ := Runs.bind_eq_ok.mp h
  rw [Session.execute, hlost] at hfound
  cases hfound

end Seeds

/-! ### The rows of a response -/

section Rows
variable {modelId : Option String} {request : CandidateRequest} {allowed : Dict String Ingredient}
variable {db : Database} {recipes : List OAIRecipe}

theorem storable_congr {db' : Database} {parsed : OAIRecipe} {kept : List (OAIIngredient × Ingredient)} {id id' : Nat}
    (hdb : db'.households = db.households) (h : Storable db (acceptedRow modelId request id parsed kept)) :
    Storable db' (acceptedRow modelId request id' parsed kept) where
  household := hdb ▸ h.household
  servings := h.servings
  preparation := h.preparation
  cooking := h.cooking
  texts := h.texts
  lists := h.lists
  lines := h.lines
  steps := h.steps

theorem addRecipe_eq_ok {db' : Database} {recipe : Recipe} (h : db.addRecipe recipe = .ok db') :
    Storable db recipe ∧ db' = { db with recipes := db.recipes ++ [recipe], recipeSeq := db.recipeSeq + 1 } := by
  unfold Database.addRecipe at h
  split at h
  · next hstorable =>
    cases h
    exact ⟨hstorable, rfl⟩
  · cases h

theorem exists_foldlM_acceptStep_iff (state : Database × List CandidateRecipeDTO)
    (hdb : state.1.households = db.households) :
    (∃ state', recipes.foldlM (acceptStep modelId request allowed) state = .ok state') ↔
      ∀ parsed ∈ recipes.filter (usable allowed),
        Storable db (acceptedRow modelId request db.recipeSeq parsed (keptOf allowed parsed)) := by
  induction recipes generalizing state with
  | nil => exact iff_of_true ⟨state, rfl⟩ fun _ h => by cases h
  | cons parsed recipes ih =>
    constructor
    · rintro ⟨state', h⟩
      obtain ⟨mid, hmid, hrest⟩ := Runs.foldlM_cons_eq_ok.mp h
      rcases acceptStep_cases hmid with ⟨hunused, rfl⟩ | ⟨hused, hadd, -⟩
      · rw [List.filter_cons_of_neg (by simp [hunused])]
        exact (ih mid hdb).mp ⟨state', hrest⟩
      · obtain ⟨hstorable, hmid'⟩ := addRecipe_eq_ok hadd
        rw [List.filter_cons_of_pos hused, List.forall_mem_cons]
        refine ⟨storable_congr hdb.symm hstorable, (ih mid ?_).mp ⟨state', hrest⟩⟩
        rw [hmid']
        exact hdb
    · intro h
      by_cases hused : usable allowed parsed = true
      · rw [List.filter_cons_of_pos hused, List.forall_mem_cons] at h
        obtain ⟨added, hadd, hadded⟩ : ∃ added, state.1.addRecipe (acceptedRow modelId request state.1.recipeSeq parsed
            (keptOf allowed parsed)) = .ok added ∧ added.households = state.1.households :=
          ⟨_, if_pos (storable_congr hdb h.1), rfl⟩
        obtain ⟨state', hrest⟩ := (ih (added, _) (hadded.trans hdb)).mpr h.2
        exact ⟨state', Runs.foldlM_cons_eq_ok.mpr ⟨_, acceptStep_of_addRecipe hused hadd, hrest⟩⟩
      · rw [List.filter_cons_of_neg hused] at h
        obtain ⟨state', hrest⟩ := (ih state hdb).mpr h
        exact ⟨state', Runs.foldlM_cons_eq_ok.mpr ⟨state, acceptStep_of_unused (Bool.not_eq_true _ ▸ hused), hrest⟩⟩

theorem persistAccepted_of_unused (h : recipes.filter (usable allowed) = []) :
    persistAccepted modelId request recipes allowed db = .ok (db, []) := by
  unfold persistAccepted
  generalize (db, ([] : List CandidateRecipeDTO)) = state
  induction recipes with
  | nil => rfl
  | cons parsed recipes ih =>
    have hunused : usable allowed parsed = false := by
      by_contra hused
      rw [List.filter_cons_of_pos (by simpa using hused)] at h
      cases h
    rw [List.filter_cons_of_neg (by simp [hunused])] at h
    exact Runs.foldlM_cons_eq_ok.mpr ⟨state, acceptStep_of_unused hunused, ih h⟩

end Rows

/-! ### The provider -/

section Response
variable {settings : OpenAISettings} {db : Database} {request : CandidateRequest} {recipes : List OAIRecipe}

theorem loadAllowedIngredients_nil (db : Database) : loadAllowedIngredients db [] = Dict.empty := by
  have hnone : (db.shop.ingredients.filter fun ing => ([] : List String).contains ing.canonicalName) = [] :=
    List.filter_eq_nil_iff.mpr fun _ _ h => by cases h
  rw [loadAllowedIngredients, hnone]
  rfl

theorem loadAllowed_of_alive {session : Session} {allowList : List String} (halive : session.lost = false) :
    loadAllowed session allowList = .ok (loadAllowedIngredients session.db allowList) := by
  unfold loadAllowed
  split
  · next hnil => rw [List.isEmpty_iff.mp hnil, loadAllowedIngredients_nil]
  · rw [Session.execute, halive]
    rfl

theorem filter_usable_empty : recipes.filter (usable Dict.empty) = [] := by
  refine List.filter_eq_nil_iff.mpr fun parsed _ => ?_
  have hkept : keptOf Dict.empty parsed = [] := List.filterMap_eq_nil_iff.mpr fun ing _ => rfl
  rw [usable, hkept]
  exact Bool.false_ne_true

theorem not_propose_of_lost {session : Session} (hlost : session.lost = true) {result : Database × CandidateBundle} :
    propose settings session request recipes ≠ .ok result := by
  intro h
  obtain ⟨allowed, hallowed, hrest⟩ := Runs.bind_eq_ok.mp h
  unfold loadAllowed at hallowed
  split at hallowed
  · cases hallowed
    rw [persistAccepted_of_unused filter_usable_empty] at hrest
    exact not_fallback_of_lost hlost hrest
  · rw [Session.execute, hlost] at hallowed
    cases hallowed

theorem propose_eq {session : Session} (halive : session.lost = false) (hdb : session.db = db) :
    propose settings session request recipes =
      persistAccepted settings.modelId request recipes (loadAllowedIngredients db request.allowList) db >>=
        fun persisted => if persisted.2.isEmpty then
            fallback { session with db := persisted.1 } request "OpenAI no devolvió ninguna receta utilizable"
          else return (persisted.1, { candidates := persisted.2 }) := by
  rw [propose, loadAllowed_of_alive halive, hdb]
  rfl

theorem exists_propose_iff {session : Session} (halive : session.lost = false) (hdb : session.db = db)
    (hsome : recipes.filter (usable (loadAllowedIngredients db request.allowList)) ≠ []) :
    (∃ db' bundle, propose settings session request recipes = .ok (db', bundle)) ↔
      ∀ parsed ∈ recipes.filter (usable (loadAllowedIngredients db request.allowList)),
        Fits settings db request parsed := by
  rw [propose_eq halive hdb]
  refine Iff.trans ?_ (exists_foldlM_acceptStep_iff (db, []) rfl)
  constructor
  · rintro ⟨db', bundle, h⟩
    obtain ⟨persisted, hpersisted, -⟩ := Runs.bind_eq_ok.mp h
    exact ⟨persisted, hpersisted⟩
  · rintro ⟨persisted, hpersisted⟩
    obtain ⟨news, hnews, hpairs⟩ := foldlM_acceptStep hpersisted
    have hne : ¬persisted.2.isEmpty = true := by
      intro hempty
      rw [hnews, List.nil_append, List.isEmpty_iff] at hempty
      rw [hempty, List.forall₂_nil_right_iff] at hpairs
      exact hsome hpairs
    exact ⟨persisted.1, _, Runs.bind_eq_ok.mpr ⟨persisted, hpersisted, if_neg hne⟩⟩

theorem propose_matches_iff {session : Session} (hdb : session.db = db) :
    (∃ db' bundle, propose settings session request recipes = .ok (db', bundle) ∧
      (recipes.filter (usable (loadAllowedIngredients db request.allowList)) = [] →
        ∃ seeds, seedGetCandidates db request = .ok seeds ∧ bundle.candidates = seeds.candidates)) ↔
      session.lost = false ∧
      (∀ parsed ∈ recipes.filter (usable (loadAllowedIngredients db request.allowList)),
        Fits settings db request parsed) ∧
      (recipes.filter (usable (loadAllowedIngredients db request.allowList)) = [] → LibraryPasses db request) := by
  by_cases hlost : session.lost = true
  · exact iff_of_false (fun ⟨_, _, h, _⟩ => not_propose_of_lost hlost h) fun h => Bool.eq_false_iff.mp h.1 hlost
  have halive : session.lost = false := by simpa using hlost
  by_cases hnone : recipes.filter (usable (loadAllowedIngredients db request.allowList)) = []
  · have hfallback : propose settings session request recipes =
        fallback { db := db } request "OpenAI no devolvió ninguna receta utilizable" := by
      rw [propose_eq halive hdb, persistAccepted_of_unused hnone, halive]
      rfl
    rw [hfallback]
    simp only [hnone, halive, forall_const, List.not_mem_nil, false_implies, implies_true, true_and]
    exact (fallback_agrees_iff rfl).trans (and_iff_right rfl)
  · simp only [hnone, false_implies, and_true, halive, true_and]
    exact exists_propose_iff halive hdb hnone

end Response

section Provider
variable {Raw : Type} {loads : Raw → Except LoadFault Json} {validate : Json → Option OAIRecipe} {raw : Raw}
variable {settings : OpenAISettings} {call : Nat → Reply Raw} {db : Database} {request : CandidateRequest}

variable (validate) in
theorem parseRecipes_cases :
    (loads raw = .error .other ∧ parseRecipes loads validate raw = .error .loads) ∨
      (loads raw ≠ .error .other ∧ ∃ parsed, parseRecipes loads validate raw = .ok parsed) := by
  unfold parseRecipes
  split
  · next h => exact Or.inl ⟨h, rfl⟩
  · next hother h => exact Or.inr ⟨h ▸ fun heq => hother (Except.error.inj heq), _, rfl⟩
  · next h =>
    refine Or.inr ⟨h ▸ nofun, ?_⟩
    split
    · exact ⟨_, rfl⟩
    · exact ⟨_, rfl⟩
  · next h => exact Or.inr ⟨h ▸ nofun, _, rfl⟩

theorem behaves_iff : Behaves loads validate settings call db request ↔
    (invokeWithRetries settings call).lost = false ∧
    (∀ raw, (invokeWithRetries settings call).output = .ok raw → loads raw ≠ .error .other) ∧
    (∀ parsed ∈ usableRecipes loads validate settings call db request, Fits settings db request parsed) ∧
    (usableRecipes loads validate settings call db request = [] → LibraryPasses db request) :=
  ⟨fun h => ⟨h.ledger, h.text, h.recipes, h.library⟩, fun ⟨hl, ht, hr, hs⟩ => ⟨hl, ht, hr, hs⟩⟩

section Shapes
variable (houtput : (invokeWithRetries settings call).output = .ok raw)
include houtput

theorem getCandidates_of_fault {fault : Fault} (hparse : parseRecipes loads validate raw = .error fault) :
    getCandidates loads validate settings call db request = .error fault := by
  simp only [getCandidates, houtput, hparse]
  rfl

theorem getCandidates_of_unreadable (hparse : parseRecipes loads validate raw = .ok none) :
    getCandidates loads validate settings call db request =
      fallback { db := db, lost := (invokeWithRetries settings call).lost } request
        "OpenAI devolvió una respuesta no válida (JSON)" := by
  simp only [getCandidates, houtput, hparse]
  rfl

theorem getCandidates_of_read {recipes : List OAIRecipe} (hparse : parseRecipes loads validate raw = .ok (some recipes)) :
    getCandidates loads validate settings call db request =
      propose settings { db := db, lost := (invokeWithRetries settings call).lost } request recipes := by
  simp only [getCandidates, houtput, hparse]
  rfl

theorem usableRecipes_of_unreadable (hparse : parseRecipes loads validate raw = .ok none) :
    usableRecipes loads validate settings call db request = [] := by
  simp only [usableRecipes, houtput, hparse]

theorem usableRecipes_of_read {recipes : List OAIRecipe} (hparse : parseRecipes loads validate raw = .ok (some recipes)) :
    usableRecipes loads validate settings call db request =
      recipes.filter (usable (loadAllowedIngredients db request.allowList)) := by
  simp only [usableRecipes, houtput, hparse, filter_usable]

end Shapes

/-- The provider does not raise, and falls back on what the library's provider gives, exactly where it behaves. -/
theorem matchesSeeds_iff :
    MatchesSeeds loads validate settings call db request ↔ Behaves loads validate settings call db request := by
  rw [behaves_iff, MatchesSeeds]
  cases houtput : (invokeWithRetries settings call).output with
  | error exc =>
    have hnone : usableRecipes loads validate settings call db request = [] := by
      simp only [usableRecipes, houtput]
    simp only [getCandidates, houtput, hnone, forall_const, List.not_mem_nil, false_implies, implies_true, reduceCtorEq,
      true_and]
    exact fallback_agrees_iff rfl
  | ok raw =>
    have htext : (∀ raw', (Except.ok raw : Except String Raw) = .ok raw' → loads raw' ≠ .error .other) ↔ loads raw ≠ .error .other :=
      ⟨fun h => h raw rfl, fun h raw' heq => Except.ok.inj heq ▸ h⟩
    rw [htext]
    rcases parseRecipes_cases validate with ⟨hloads, hparse⟩ | ⟨hloads, parsed, hparse⟩
    · rw [getCandidates_of_fault houtput hparse]
      exact iff_of_false (fun ⟨_, _, h, _⟩ => by cases h) fun h => h.2.1 hloads
    · cases parsed with
      | none =>
        rw [getCandidates_of_unreadable houtput hparse, usableRecipes_of_unreadable houtput hparse]
        simp only [forall_const, List.not_mem_nil, false_implies, implies_true, true_and, and_iff_right hloads]
        exact fallback_agrees_iff rfl
      | some recipes =>
        rw [getCandidates_of_read houtput hparse, usableRecipes_of_read houtput hparse, and_iff_right hloads]
        exact propose_matches_iff rfl

end Provider

/-! A library with a dish of rice and a dish of lentils, where the shop prices only the rice and the model is away. -/

def riceRecipe : Recipe where
  id := 1
  origin := .seed
  isPublic := true
  title := "Arroz blanco"
  servings := 2
  mealTypes := some ["lunch"]
  ingredients := [{ ingredientId := 1, canonicalName := "arroz", quantity := 200, unit := "g" }]

def lentilRecipe : Recipe where
  id := 2
  origin := .seed
  isPublic := true
  title := "Lentejas"
  servings := 2
  mealTypes := some ["lunch"]
  ingredients := [{ ingredientId := 3, canonicalName := "lenteja", quantity := 150, unit := "g" }]

def libraryDb : Database := { shop := { ingredients := [rice] }, households := [1], recipes := [riceRecipe, lentilRecipe] }

def away : Nat → Reply Unit := fun _ => { output := .error "timeout" }

theorem not_libraryPasses_away : ¬LibraryPasses libraryDb riceRequest := by
  intro h
  have hlentils := (h lentilRecipe (mem_publicRecipes.mpr ⟨by decide, rfl, rfl⟩) (by decide)).2
  exact absurd hlentils (by decide)

/-- When the model is away, the provider also offers the dish that the shop cannot price. -/
theorem not_matchesSeeds_away :
    ¬MatchesSeeds (fun _ => .ok .null) (fun _ => none) {} away libraryDb riceRequest := by
  rintro ⟨db', bundle, hbundle, hseeds⟩
  obtain ⟨seeds, hlibrary, heq⟩ := hseeds rfl
  exact not_libraryPasses_away ((fallback_agrees_iff rfl).mp ⟨db', bundle, hbundle, seeds, hlibrary, heq⟩).2

end CestaPlan.Candidates
