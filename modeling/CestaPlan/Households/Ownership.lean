import CestaPlan.Households.Endpoints

/-! Who can still manage a household: its owners with an active account. -/

namespace CestaPlan.Households
open Updates
open Calendar (Instant)

/-- The member is linked to an active account. -/
def HasAccount (db : Db) (m : HouseholdMember) : Prop := ∃ u ∈ db.users, m.userId = some u.id ∧ u.status = .active

structure Owns (db : Db) (householdId : Nat) (m : HouseholdMember) : Prop where
  mem : m ∈ db.members
  household : m.householdId = householdId
  role : m.role = .owner
  account : HasAccount db m

/-- Every household that is not deleted has an owner with an active account. -/
def Managed (db : Db) : Prop := ∀ h ∈ db.households, h.deletedAt = none → ∃ m, Owns db h.id m

/-- A request does not take from a household its last owner with an active account: a change of role leaves another one,
    and so does the deletion of an account, or it deletes the household too. -/
def LeavesOwner (db : Db) : Call → Prop
  | .updateMember payload memberId householdId userId =>
    ∀ caller, requireOwner db householdId userId = .ok caller → ∀ m, m.id = memberId → Owns db householdId m →
      ∀ role, payload.role = some role → role ≠ .owner → ∃ other, other.id ≠ memberId ∧ Owns db householdId other
  | .anonymizeAccount userId _ =>
    ∀ user, getCurrentUser db userId = .ok user → ∀ h ∈ db.households, h.deletedAt = none →
      ∀ m, m.userId = some userId → Owns db h.id m →
        (∃ other, other.userId ≠ some userId ∧ Owns db h.id other) ∨ h.ownerUserId = userId ∧ hasOthers db userId h = false
  | _ => True

section Steps
variable {lower hashToken : String → String} {db db' : Db} {householdId userId memberId : Nat} {now : Instant}
  {m : HouseholdMember}

/-! ### The owners -/

theorem Owns.mono (h : Owns db householdId m) (husers : db'.users = db.users) (hmem : m ∈ db'.members) :
    Owns db' householdId m where
  mem := hmem
  household := h.household
  role := h.role
  account := by
    obtain ⟨u, hu, hlink⟩ := h.account
    exact ⟨u, husers ▸ hu, hlink⟩

theorem Managed.mono (h : Managed db) (husers : db'.users = db.users) (hhouseholds : db'.households = db.households)
    (hmembers : ∀ m ∈ db.members, m ∈ db'.members) : Managed db' := by
  intro household hmem hlive
  rw [hhouseholds] at hmem
  obtain ⟨m, hm⟩ := h household hmem hlive
  exact ⟨m, hm.mono husers (hmembers m hm.mem)⟩

theorem Managed.create (h : Managed db) {payload : HouseholdCreate} {userId : Nat}
    (hok : createHousehold db payload userId now = .ok db') : Managed db' := by
  obtain ⟨user, household, member, huser, -, -, hhousehold, hlink, hrole, rfl⟩ := createHousehold_ok hok
  obtain ⟨hmem, -, hactive⟩ := getCurrentUser_ok huser
  intro household' hmem' hlive
  rcases List.mem_append.mp hmem' with hold | hnew
  · obtain ⟨m, hm⟩ := h household' hold hlive
    exact ⟨m, hm.mono rfl (List.mem_append_left _ hm.mem)⟩
  · obtain rfl := List.mem_singleton.mp hnew
    exact ⟨member, List.mem_append_right _ List.mem_cons_self, hhousehold, hrole, user, hmem, hlink, hactive⟩

theorem Owns.of_update {payload : MemberUpdate} {role : Role} (hrole : payload.role = some role) (hne : role ≠ .owner)
    (h : Owns { db with members := updateAt (·.id) memberId payload.apply db.members } householdId m) :
    m.id ≠ memberId ∧ Owns db householdId m := by
  obtain ⟨x, hx, rfl⟩ := mem_updateAt.mp h.mem
  have howner := h.role
  split at h
  · next hid =>
    rw [if_pos hid, MemberUpdate.apply, hrole] at howner
    exact absurd howner hne
  · next hid =>
    rw [if_neg hid]
    exact ⟨hid, hx, h.household, h.role, h.account⟩

theorem managed_update_iff {payload : MemberUpdate} {userId : Nat} (hk : MembersKeyed db) (h : Managed db)
    (hok : updateMember db payload memberId householdId userId = .ok db') :
    Managed db' ↔ LeavesOwner db (.updateMember payload memberId householdId userId) := by
  obtain ⟨user, ctx, member, hctx, hmember, hallowed, rfl⟩ := updateMember_ok hok
  obtain ⟨hcaller, -⟩ := requireHouseholdRole_ok hctx
  obtain ⟨hrow, hof⟩ := Option.filter_eq_some_iff.mp hmember
  have hof := of_decide_eq_true hof
  constructor
  · intro hmanaged caller hcaller' m hid howns role hrole hne
    obtain ⟨other, hother⟩ := hmanaged ctx.household hcaller.household_mem hcaller.household_live
    rw [hcaller.household_id] at hother
    exact ⟨other, hother.of_update hrole hne⟩
  · intro hleaves household hmem hlive
    obtain ⟨m, hm⟩ := h household hmem hlive
    have hkept : ∀ x, x.id ≠ memberId → Owns db household.id x → ∃ m,
        Owns { db with members := updateAt (·.id) memberId payload.apply db.members } household.id m := by
      intro x hne hx
      exact ⟨x, hx.mono rfl (mem_updateAt.mpr ⟨x, hx.mem, if_neg hne⟩)⟩
    by_cases hid : m.id = memberId
    · by_cases hrole : payload.role.getD .owner = .owner
      · -- The member keeps the role.
        refine ⟨payload.apply m, mem_updateAt.mpr ⟨m, hm.mem, if_pos hid⟩, hm.household, ?_, hm.account⟩
        rw [MemberUpdate.apply, hm.role]
        exact hrole
      · obtain ⟨role, hsome⟩ : ∃ role, payload.role = some role := by
          cases hrole' : payload.role with
          | none => simp [hrole'] at hrole
          | some role => exact ⟨role, rfl⟩
        rw [hsome, Option.getD_some] at hrole
        have hsame : m = member :=
          List.inj_on_of_nodup_map hk.nodup hm.mem (mem_of_row? hrow) (hid.trans (key_of_row? hrow).symm)
        have hhousehold : household.id = householdId := by
          rw [← hm.household, hsame, hof, hcaller.household_id]
        have howner : requireOwner db householdId userId = .ok (user, ctx) := by
          rcases hallowed with hnone | hsame' | howner
          · rw [hsome] at hnone
            cases hnone
          · rw [hsome, ← hsame, hm.role] at hsame'
            exact absurd (Option.some.inj hsame') hrole
          · exact requireOwner_iff.mpr ⟨hctx, howner⟩
        obtain ⟨other, hne, hother⟩ := hleaves _ howner m hid (hhousehold ▸ hm) role hsome hrole
        exact hkept other hne (hhousehold ▸ hother)
    · exact hkept m hid hm

theorem hasAccount_anonymized_iff {userId : Nat} {m : HouseholdMember} (hne : m.userId ≠ some userId)
    {households : List Household} {members : List HouseholdMember} :
    HasAccount { db with
      users := updateAt (·.id) userId User.anonymize db.users, households := households, members := members } m ↔
        HasAccount db m := by
  constructor
  · rintro ⟨u', hu', hlink, hactive⟩
    obtain ⟨u, hu, rfl⟩ := mem_updateAt.mp hu'
    split at hlink
    · next hid => exact absurd (hlink.trans (congrArg some hid)) hne
    · next hid =>
      rw [if_neg hid] at hactive
      exact ⟨u, hu, hlink, hactive⟩
  · rintro ⟨u, hu, hlink, hactive⟩
    refine ⟨u, mem_updateAt.mpr ⟨u, hu, if_neg fun hid => hne ?_⟩, hlink, hactive⟩
    exact hlink.trans (congrArg some hid)

theorem managed_anonymize_iff {userId : Nat} (h : Managed db) (hok : anonymizeAccount db userId now = .ok db') :
    Managed db' ↔ LeavesOwner db (.anonymizeAccount userId now) := by
  obtain ⟨user, huser, rfl⟩ := anonymizeAccount_ok hok
  constructor
  · intro hmanaged user' _ household hmem hlive m hlink howns
    by_cases hdeleted : household.ownerUserId = userId ∧ household.deletedAt = none ∧ hasOthers db userId household = false
    · exact Or.inr ⟨hdeleted.1, hdeleted.2.2⟩
    · left
      have hsame : anonymizeHousehold db userId now household = household := if_neg hdeleted
      obtain ⟨other, hother⟩ := hmanaged household (hsame ▸ List.mem_map_of_mem hmem) hlive
      obtain ⟨hin, hne⟩ := List.mem_filter.mp hother.mem
      have hne := of_decide_eq_true hne
      exact ⟨other, hne, hin, hother.household, hother.role, (hasAccount_anonymized_iff hne).mp hother.account⟩
  · intro hleaves household' hmem' hlive'
    obtain ⟨household, hmem, rfl⟩ := List.mem_map.mp hmem'
    by_cases hdeleted : household.ownerUserId = userId ∧ household.deletedAt = none ∧ hasOthers db userId household = false
    · rw [anonymizeHousehold, if_pos hdeleted] at hlive'
      cases hlive'
    · rw [anonymizeHousehold, if_neg hdeleted] at hlive' ⊢
      obtain ⟨m, hm⟩ := h household hmem hlive'
      have hkept : ∀ x, x.userId ≠ some userId → Owns db household.id x → Owns { db with
          users := updateAt (·.id) userId User.anonymize db.users
          households := db.households.map (anonymizeHousehold db userId now)
          members := db.members.filter (·.userId ≠ some userId) } household.id x := by
        intro x hne hx
        exact ⟨List.mem_filter.mpr ⟨hx.mem, decide_eq_true hne⟩, hx.household, hx.role,
          (hasAccount_anonymized_iff hne).mpr hx.account⟩
      by_cases hlink : m.userId = some userId
      · rcases hleaves user huser household hmem hlive' m hlink hm with ⟨other, hne, hother⟩ | ⟨howner, hothers⟩
        · exact ⟨other, hkept other hne hother⟩
        · exact absurd ⟨howner, hlive', hothers⟩ hdeleted
      · exact ⟨m, hkept m hlink hm⟩

theorem leavesOwner_of_refused (hk : MembersKeyed db) {call : Call} {e : HttpError}
    (h : answer lower hashToken db call = .error e) : LeavesOwner db call := by
  cases call with
  | updateMember payload memberId householdId userId =>
    intro caller hcaller m hid howns
    have hmember := memberOf_of_mem hk howns.mem
    rw [howns.household, hid] at hmember
    rw [answer, updateMember_of_owner hcaller hmember] at h
    cases h
  | anonymizeAccount userId now =>
    intro user huser
    rw [answer, anonymizeAccount, huser] at h
    cases h
  | _ => trivial

theorem managed_step_iff (hk : MembersKeyed db) (h : Managed db) (call : Call) :
    Managed (step lower hashToken db call) ↔ LeavesOwner db call := by
  cases hanswer : answer lower hashToken db call with
  | error e =>
    rw [step, hanswer]
    exact iff_of_true h (leavesOwner_of_refused hk hanswer)
  | ok db' =>
    rw [step, hanswer]
    cases call with
    | createHousehold payload userId now => exact iff_of_true (h.create hanswer) trivial
    | addMember payload householdId userId now =>
      obtain ⟨member, -, -, rfl⟩ := addMember_ok hanswer
      exact iff_of_true (h.mono rfl rfl fun m hm => List.mem_append_left _ hm) trivial
    | updateMember payload memberId householdId userId => exact managed_update_iff hk h hanswer
    | createInvitation payload token householdId userId now =>
      obtain ⟨-, -, -, -, -, -, -, -, -, rfl⟩ := createInvitation_ok hanswer
      exact iff_of_true (h.mono rfl rfl fun m hm => hm) trivial
    | revokeInvitation invitationId householdId userId =>
      obtain ⟨-, -, -, rfl⟩ := revokeInvitation_ok hanswer
      exact iff_of_true (h.mono rfl rfl fun m hm => hm) trivial
    | previewInvitation token userId now =>
      obtain rfl := previewInvitation_ok hanswer
      exact iff_of_true h trivial
    | acceptInvitation token userId now =>
      obtain ⟨-, -, -, -, -, -, -, -, -, -, rfl⟩ := acceptInvitation_ok hanswer
      exact iff_of_true (h.mono rfl rfl fun m hm => List.mem_append_left _ hm) trivial
    | anonymizeAccount userId now => exact managed_anonymize_iff h hanswer

end Steps

/-- Every household stays managed all along a run exactly when no request takes one's last owner. -/
theorem managed_iff (lower hashToken : String → String) (db : Db) (hk : MembersKeyed db) (hstart : Managed db)
    (calls : List Call) :
    (∀ pre, pre <+: calls → Managed (pre.foldl (step lower hashToken) db)) ↔
      ∀ pre call, pre ++ [call] <+: calls → LeavesOwner (pre.foldl (step lower hashToken) db) call :=
  Runs.forall_prefix_iff (fun _ hk call _ => hk.step call) (fun _ hk hmanaged call _ => managed_step_iff hk hmanaged call)
    hk hstart

/-! ### A shared household -/

def ana : User := { id := 1, publicId := "a", email := "ana@example.com" }

def berta : User := { id := 2, publicId := "b", email := "berta@example.com" }

def anaOwns : HouseholdMember := { id := 11, householdId := 10, userId := some 1, role := .owner, joinedAt := 0 }

def bertaEdits : HouseholdMember := { id := 12, householdId := 10, userId := some 2, role := .editor, joinedAt := 0 }

def sharedHousehold : Household := { id := 10, name := "Compartido", ownerUserId := 1 }

/-- The household of one account, with another one as its editor. -/
def shared : Db where
  users := [ana, berta]
  households := [sharedHousehold]
  members := [anaOwns, bertaEdits]
  nextId := 13

theorem shared_keyed : MembersKeyed shared := ⟨by decide, by simp [shared, anaOwns, bertaEdits]⟩

theorem managed_shared : Managed shared := by
  intro h hmem _
  obtain rfl := List.mem_singleton.mp hmem
  exact ⟨anaOwns, List.mem_cons_self, rfl, rfl, ana, List.mem_cons_self, rfl, rfl⟩

/-- The owner makes the editor an owner, and then deletes the account. -/
theorem managed_shared_handed_over : Managed ([Call.updateMember { role := some .owner } 12 10 1, .anonymizeAccount 1 5].foldl
    (step id id) shared) := by
  refine (managed_iff id id shared shared_keyed managed_shared _).mpr ?_ _ List.prefix_rfl
  simp only [Runs.forall_prefix_concat_cons]
  refine ⟨?_, ?_, fun pre call hpre => ?_⟩
  · intro caller _ m _ _ role hrole hne
    exact absurd (Option.some.inj hrole).symm hne
  · intro user _ h hmem _ m _ _
    obtain rfl := List.mem_singleton.mp hmem
    left
    refine ⟨{ bertaEdits with role := .owner, dietaryProfiles := [{}] }, by simp [bertaEdits], ?_, rfl, rfl, berta, ?_, rfl, rfl⟩
    · exact List.mem_cons_of_mem _ List.mem_cons_self
    · exact List.mem_cons_of_mem _ List.mem_cons_self
  · simp at hpre

/-- A household that is kept for its editor has no owner left, nor has one whose owner gave up the role. -/
theorem not_managed_shared : ¬Managed (step id id shared (.anonymizeAccount 1 5)) ∧
    ¬Managed (step id id shared (.updateMember { role := some .viewer } 11 10 1)) := by
  constructor
  · intro h
    obtain ⟨m, hm⟩ := h sharedHousehold List.mem_cons_self rfl
    obtain rfl := List.mem_singleton.mp hm.mem
    exact absurd hm.role Role.noConfusion
  · intro h
    obtain ⟨m, hm⟩ := h sharedHousehold List.mem_cons_self rfl
    rcases List.mem_cons.mp hm.mem with rfl | hmem
    · exact absurd hm.role Role.noConfusion
    · obtain rfl := List.mem_singleton.mp hmem
      exact absurd hm.role Role.noConfusion

end CestaPlan.Households
