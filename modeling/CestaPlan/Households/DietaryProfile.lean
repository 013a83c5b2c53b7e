import Mathlib.Data.List.Nodup
import Mathlib.Data.Rat.Defs

/-! Dietary profiles (`services/household.py`), and what a partial update makes of one (`update_member`). -/

namespace CestaPlan.Households

/-! ### The payload -/

inductive AllergySeverity where
  | intolerance | allergy | anaphylaxis
deriving DecidableEq

inductive PreferenceSubject where
  | ingredient | cuisine | tag
deriving DecidableEq

inductive PreferenceSentiment where
  | like | dislike | avoid
deriving DecidableEq

inductive Role where
  | owner | editor | viewer
deriving DecidableEq

/-- `AllergyIn`; the columns of a row are the same. -/
structure AllergyIn where
  allergenCode : String
  severity : AllergySeverity := .allergy
  avoidTraces : Bool := true
  notes : Option String := none
deriving DecidableEq

/-- `PreferenceIn`; the columns of a row are the same. -/
structure PreferenceIn where
  subjectType : PreferenceSubject := .ingredient
  subjectRef : String
  sentiment : PreferenceSentiment := .like
  weight : Option ℚ := none
deriving DecidableEq

structure NutritionGoalIn where
  energyTargetKcal : Option ℚ := none
  proteinTargetG : Option ℚ := none
  carbTargetG : Option ℚ := none
  fatTargetG : Option ℚ := none
deriving DecidableEq

structure MemberUpdate where
  displayName : Option String := none
  role : Option Role := none
  isEater : Option Bool := none
  dietType : Option String := none
  notes : Option String := none
  nutritionGoal : Option NutritionGoalIn := none
  allergies : Option (List AllergyIn) := none
  intolerances : Option (List String) := none
  preferences : Option (List PreferenceIn) := none
  rejectedIngredients : Option (List String) := none
deriving DecidableEq

/-! ### The profile -/

/-- The rows of a profile in one table, by id. The ids come from the table's sequence. -/
structure Collection (α : Type) where
  rows : List (Nat × α) := []
  nextId : Nat := 0
  fresh : ∀ row ∈ rows, row.1 < nextId := by decide

/-- Replacing a collection removes the old rows (`delete-orphan`) and inserts new ones. -/
def Collection.replace {α : Type} (c : Collection α) (values : List α) : Collection α where
  rows := (values.zipIdx c.nextId).map Prod.swap
  nextId := c.nextId + values.length
  fresh := by
    intro row hrow
    obtain ⟨⟨value, id⟩, hmem, rfl⟩ := List.mem_map.mp hrow
    have hlt := List.snd_lt_add_of_mem_zipIdx hmem
    simp only [Prod.swap_prod_mk]
    omega

structure DietaryProfile where
  dietType : Option String := none
  targets : NutritionGoalIn := {}
  notes : Option String := none
  allergies : Collection AllergyIn := {}
  foodPreferences : Collection PreferenceIn := {}

def buildAllergies (allergies : List AllergyIn) (intolerances : List String) : List AllergyIn :=
  allergies ++ intolerances.map fun code => { allergenCode := code, severity := .intolerance, avoidTraces := false }

def buildPreferences (preferences : List PreferenceIn) (rejectedIngredients : List String) : List PreferenceIn :=
  preferences ++ rejectedIngredients.map fun name => { subjectType := .ingredient, subjectRef := name, sentiment := .avoid }

def applyNutritionGoal (targets : NutritionGoalIn) (goal : Option NutritionGoalIn) : NutritionGoalIn := goal.getD targets

/-- Two lists of a payload share one collection: it is replaced when either is given. -/
def replaceGiven {α β γ : Type} (build : List α → List β → List γ) (first : Option (List α)) (second : Option (List β))
    (c : Collection γ) : Collection γ :=
  if first.isSome || second.isSome then c.replace (build (first.getD []) (second.getD [])) else c

/-- The part of `update_member` that is about the profile. -/
def MemberUpdate.applyProfile (payload : MemberUpdate) (profile : DietaryProfile) : DietaryProfile where
  dietType := payload.dietType <|> profile.dietType
  notes := payload.notes <|> profile.notes
  targets := applyNutritionGoal profile.targets payload.nutritionGoal
  allergies := replaceGiven buildAllergies payload.allergies payload.intolerances profile.allergies
  foodPreferences := replaceGiven buildPreferences payload.preferences payload.rejectedIngredients profile.foodPreferences

/-! ### What a partial update keeps -/

section Collection
variable {α β γ : Type} {c : Collection γ} {row : Nat × γ}

theorem Collection.le_of_mem_replace {values : List γ} (h : row ∈ (c.replace values).rows) : c.nextId ≤ row.1 := by
  obtain ⟨⟨value, id⟩, hmem, rfl⟩ := List.mem_map.mp h
  exact List.le_snd_of_mem_zipIdx hmem

theorem Collection.not_mem_replace {values : List γ} (h : row ∈ c.rows) : row ∉ (c.replace values).rows := by
  intro hmem
  have hlt := c.fresh row h
  have hle := Collection.le_of_mem_replace hmem
  omega

theorem replaceGiven_none {build : List α → List β → List γ} : replaceGiven build none none c = c := rfl

theorem kept_replaceGiven_iff {build : List α → List β → List γ} {first : Option (List α)} {second : Option (List β)}
    (p : γ → Prop) : (∀ row ∈ c.rows, p row.2 → row ∈ (replaceGiven build first second c).rows) ↔
      (first ≠ none ∨ second ≠ none → ∀ row ∈ c.rows, ¬p row.2) := by
  unfold replaceGiven
  rw [← Option.isSome_iff_ne_none, ← Option.isSome_iff_ne_none, ← Bool.or_eq_true]
  split
  · next hgiven =>
    constructor
    · exact fun h _ row hrow hp => Collection.not_mem_replace hrow (h row hrow hp)
    · exact fun h row hrow hp => absurd hp (h hgiven row hrow)
  · next hgiven => exact iff_of_true (fun row hrow _ => hrow) fun h => absurd h hgiven

end Collection

end CestaPlan.Households
