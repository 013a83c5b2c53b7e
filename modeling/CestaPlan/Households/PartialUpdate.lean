import CestaPlan.Households.Endpoints

/-! What a partial update of a member keeps (`update_member`). Two lists of the payload share each collection of the
    profile, and either of them replaces it. -/

namespace CestaPlan.Households
open Updates

/-! ### The profile -/

/-- An ingredient that is to be avoided. -/
def PreferenceIn.Rejected (p : PreferenceIn) : Prop := p.subjectType = .ingredient ∧ p.sentiment = .avoid

/-- The profile changes only in what the payload gives: the rows of a list that it omits stay. -/
structure Framed (payload : MemberUpdate) (profile profile' : DietaryProfile) : Prop where
  dietType : payload.dietType = none → profile'.dietType = profile.dietType
  notes : payload.notes = none → profile'.notes = profile.notes
  targets : payload.nutritionGoal = none → profile'.targets = profile.targets
  allergies : payload.allergies = none →
    ∀ row ∈ profile.allergies.rows, row.2.severity ≠ .intolerance → row ∈ profile'.allergies.rows
  intolerances : payload.intolerances = none →
    ∀ row ∈ profile.allergies.rows, row.2.severity = .intolerance → row ∈ profile'.allergies.rows
  noAllergies : payload.allergies = none → payload.intolerances = none → profile'.allergies = profile.allergies
  preferences : payload.preferences = none →
    ∀ row ∈ profile.foodPreferences.rows, ¬row.2.Rejected → row ∈ profile'.foodPreferences.rows
  rejectedIngredients : payload.rejectedIngredients = none →
    ∀ row ∈ profile.foodPreferences.rows, row.2.Rejected → row ∈ profile'.foodPreferences.rows
  noPreferences : payload.preferences = none → payload.rejectedIngredients = none →
    profile'.foodPreferences = profile.foodPreferences

/-- Of two lists that share a collection, the payload omits one alone only where no stored row belongs to it. -/
structure OmitsNone (payload : MemberUpdate) (profile : DietaryProfile) : Prop where
  allergies : payload.allergies = none → payload.intolerances ≠ none →
    ∀ row ∈ profile.allergies.rows, row.2.severity = .intolerance
  intolerances : payload.intolerances = none → payload.allergies ≠ none →
    ∀ row ∈ profile.allergies.rows, row.2.severity ≠ .intolerance
  preferences : payload.preferences = none → payload.rejectedIngredients ≠ none →
    ∀ row ∈ profile.foodPreferences.rows, row.2.Rejected
  rejectedIngredients : payload.rejectedIngredients = none → payload.preferences ≠ none →
    ∀ row ∈ profile.foodPreferences.rows, ¬row.2.Rejected

section Framed
variable {payload : MemberUpdate} {profile : DietaryProfile}

theorem allergies_kept_iff (p : AllergyIn → Prop) :
    (∀ row ∈ profile.allergies.rows, p row.2 → row ∈ (payload.applyProfile profile).allergies.rows) ↔
      (payload.allergies ≠ none ∨ payload.intolerances ≠ none → ∀ row ∈ profile.allergies.rows, ¬p row.2) :=
  kept_replaceGiven_iff p

theorem preferences_kept_iff (p : PreferenceIn → Prop) :
    (∀ row ∈ profile.foodPreferences.rows, p row.2 → row ∈ (payload.applyProfile profile).foodPreferences.rows) ↔
      (payload.preferences ≠ none ∨ payload.rejectedIngredients ≠ none →
        ∀ row ∈ profile.foodPreferences.rows, ¬p row.2) :=
  kept_replaceGiven_iff p

theorem OmitsNone.of_framed (h : Framed payload profile (payload.applyProfile profile)) : OmitsNone payload profile where
  allergies hnone hgiven row hrow := by
    have hkept := (allergies_kept_iff (·.severity ≠ .intolerance)).mp (h.allergies hnone)
    exact not_not.mp (hkept (Or.inr hgiven) row hrow)
  intolerances hnone hgiven := by
    have hkept := (allergies_kept_iff (·.severity = .intolerance)).mp (h.intolerances hnone)
    exact hkept (Or.inl hgiven)
  preferences hnone hgiven row hrow := by
    have hkept := (preferences_kept_iff (¬·.Rejected)).mp (h.preferences hnone)
    exact not_not.mp (hkept (Or.inr hgiven) row hrow)
  rejectedIngredients hnone hgiven := by
    have hkept := (preferences_kept_iff (·.Rejected)).mp (h.rejectedIngredients hnone)
    exact hkept (Or.inl hgiven)

theorem OmitsNone.framed (h : OmitsNone payload profile) : Framed payload profile (payload.applyProfile profile) where
  dietType hnone := by simp [MemberUpdate.applyProfile, hnone]
  notes hnone := by simp [MemberUpdate.applyProfile, hnone]
  targets hnone := by simp [MemberUpdate.applyProfile, applyNutritionGoal, hnone]
  allergies hnone := by
    refine (allergies_kept_iff (·.severity ≠ .intolerance)).mpr fun hgiven row hrow => not_not.mpr ?_
    exact h.allergies hnone (hgiven.resolve_left (absurd hnone)) row hrow
  intolerances hnone :=
    (allergies_kept_iff (·.severity = .intolerance)).mpr fun hgiven =>
      h.intolerances hnone (hgiven.resolve_right (absurd hnone))
  noAllergies hallergies hintolerances := by
    rw [MemberUpdate.applyProfile, hallergies, hintolerances, replaceGiven_none]
  preferences hnone := by
    refine (preferences_kept_iff (¬·.Rejected)).mpr fun hgiven row hrow => not_not.mpr ?_
    exact h.preferences hnone (hgiven.resolve_left (absurd hnone)) row hrow
  rejectedIngredients hnone :=
    (preferences_kept_iff (·.Rejected)).mpr fun hgiven =>
      h.rejectedIngredients hnone (hgiven.resolve_right (absurd hnone))
  noPreferences hpreferences hrejected := by
    rw [MemberUpdate.applyProfile, hpreferences, hrejected, replaceGiven_none]

end Framed

/-! ### The member and the others -/

/-- The member changes only in what the payload gives, and no profile but the first changes. -/
structure FramedMember (payload : MemberUpdate) (m m' : HouseholdMember) : Prop where
  householdId : m'.householdId = m.householdId
  userId : m'.userId = m.userId
  joinedAt : m'.joinedAt = m.joinedAt
  displayName : payload.displayName = none → m'.displayName = m.displayName
  isEater : payload.isEater = none → m'.isEater = m.isEater
  role : payload.role = none → m'.role = m.role
  profile : ∀ profile others, m.dietaryProfiles = profile :: others →
    ∃ profile', m'.dietaryProfiles = profile' :: others ∧ Framed payload profile profile'

/-- An update changes only what it gives, of the one member that it names. -/
structure ChangesOnlyGiven (payload : MemberUpdate) (memberId : Nat) (db db' : Db) : Prop where
  users : db'.users = db.users
  households : db'.households = db.households
  invitations : db'.invitations = db.invitations
  ids : db'.members.map (·.id) = db.members.map (·.id)
  others : ∀ m ∈ db.members, m.id ≠ memberId → m ∈ db'.members
  member : ∀ m ∈ db.members, m.id = memberId → ∀ m' ∈ db'.members, m'.id = memberId → FramedMember payload m m'

theorem framedMember_apply_iff {payload : MemberUpdate} {m : HouseholdMember} :
    FramedMember payload m (payload.apply m) ↔ ∀ profile ∈ m.dietaryProfiles.head?, OmitsNone payload profile := by
  constructor
  · intro h profile hprofile
    obtain ⟨others, hprofiles⟩ := List.head?_eq_some_iff.mp hprofile
    obtain ⟨profile', happly, hframed⟩ := h.profile profile others hprofiles
    rw [MemberUpdate.apply, hprofiles] at happly
    obtain ⟨rfl, -⟩ := List.cons.inj happly
    exact OmitsNone.of_framed hframed
  · intro h
    refine ⟨rfl, rfl, rfl, fun hnone => ?_, fun hnone => ?_, fun hnone => ?_, fun profile others hprofiles => ?_⟩
    · simp [MemberUpdate.apply, hnone]
    · simp [MemberUpdate.apply, hnone]
    · simp [MemberUpdate.apply, hnone]
    · refine ⟨payload.applyProfile profile, ?_, (h profile (hprofiles ▸ rfl)).framed⟩
      rw [MemberUpdate.apply, hprofiles, MemberUpdate.applyProfiles]

/-- An update of a member changes only what it gives exactly when, of two lists that share a collection, it omits one
    alone only where no stored row belongs to that one. -/
theorem changesOnlyGiven_iff {db db' : Db} (hk : MembersKeyed db) (payload : MemberUpdate) (memberId householdId userId : Nat)
    (hok : updateMember db payload memberId householdId userId = .ok db') :
    ChangesOnlyGiven payload memberId db db' ↔
      ∀ m ∈ db.members, m.id = memberId → ∀ profile ∈ m.dietaryProfiles.head?, OmitsNone payload profile := by
  obtain ⟨user, ctx, member, -, -, -, rfl⟩ := updateMember_ok hok
  have hids : (updateAt (·.id) memberId payload.apply db.members).map (·.id) = db.members.map (·.id) :=
    map_updateAt fun _ => rfl
  have happlied : ∀ m ∈ db.members, m.id = memberId →
      payload.apply m ∈ updateAt (·.id) memberId payload.apply db.members := fun m hm hid =>
    mem_updateAt.mpr ⟨m, hm, if_pos hid⟩
  constructor
  · intro h m hm hid
    exact framedMember_apply_iff.mp (h.member m hm hid _ (happlied m hm hid) hid)
  · intro h
    refine ⟨rfl, rfl, rfl, hids, fun m hm hne => mem_updateAt.mpr ⟨m, hm, if_neg hne⟩, fun m hm hid m' hm' hid' => ?_⟩
    have hsame : m' = payload.apply m :=
      List.inj_on_of_nodup_map (hids ▸ hk.nodup) hm' (happlied m hm hid) (hid'.trans hid.symm)
    rw [hsame]
    exact framedMember_apply_iff.mpr (h m hm hid)

/-! ### An allergic member -/

theorem fresh_nil {α : Type} : ∀ row ∈ ([] : List (Nat × α)), row.1 < 0 := List.forall_mem_nil _

/-- A severe allergy to nuts, and an intolerance. -/
def nutsAndLactose : DietaryProfile where
  foodPreferences := { fresh := fresh_nil }
  allergies := Collection.replace { fresh := fresh_nil }
    (buildAllergies [{ allergenCode := "nuts", severity := .anaphylaxis }] ["lactose"])

def allergic (profile : DietaryProfile) : Db where
  users := [{ id := 1, publicId := "a", email := "ana@example.com" }]
  households := [{ id := 10, name := "Casa", ownerUserId := 1 }]
  members := [{ id := 11, householdId := 10, userId := some 1, role := .owner, joinedAt := 0, dietaryProfiles := [profile] }]
  nextId := 12

theorem allergic_keyed (profile : DietaryProfile) : MembersKeyed (allergic profile) := ⟨by simp [allergic], by simp [allergic]⟩

/-- A new intolerance and the stored allergies, all of them given. -/
def bothGiven : MemberUpdate where
  allergies := some [{ allergenCode := "nuts", severity := .anaphylaxis }]
  intolerances := some ["lactose", "gluten"]

theorem changesOnlyGiven_bothGiven :
    ChangesOnlyGiven bothGiven 11 (allergic nutsAndLactose)
      { allergic nutsAndLactose with members := updateAt (·.id) 11 bothGiven.apply (allergic nutsAndLactose).members } := by
  refine (changesOnlyGiven_iff (allergic_keyed _) bothGiven 11 10 1 rfl).mpr ?_
  intro m hm _ profile hprofile
  obtain rfl := List.mem_singleton.mp hm
  obtain rfl := Option.some.inj hprofile
  have hallergies : bothGiven.allergies ≠ none := Option.some_ne_none _
  have hintolerances : bothGiven.intolerances ≠ none := Option.some_ne_none _
  exact ⟨fun h => absurd h hallergies, fun h => absurd h hintolerances, fun _ h => absurd rfl h, fun _ h => absurd rfl h⟩

/-- A new intolerance alone takes the allergy away. -/
theorem not_changesOnlyGiven_gluten : ¬∀ db', updateMember (allergic nutsAndLactose) { intolerances := some ["gluten"] } 11 10 1 =
    .ok db' → ChangesOnlyGiven { intolerances := some ["gluten"] } 11 (allergic nutsAndLactose) db' := by
  intro h
  have hchanges := h _ rfl
  have hframed := hchanges.member _ List.mem_cons_self rfl _ List.mem_cons_self rfl
  obtain ⟨profile', hprofiles, hprofile⟩ := hframed.profile _ _ rfl
  obtain ⟨rfl, -⟩ := List.cons.inj hprofiles
  have hkept := hprofile.allergies rfl (0, { allergenCode := "nuts", severity := .anaphylaxis }) List.mem_cons_self (by decide)
  revert hkept
  decide

end CestaPlan.Households
