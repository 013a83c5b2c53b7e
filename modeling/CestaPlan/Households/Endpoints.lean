import CestaPlan.Households.DietaryProfile
import CestaPlan.Library.Calendar
import CestaPlan.Library.Runs
import CestaPlan.Library.Text
import CestaPlan.Library.Updates

/-! Households, their members and invitations (`routers/households.py`, `routers/invitations.py`), and what the deletion
    of an account does to them (`services/account_deletion.py`).

    A request that raises is rolled back, whatever it has written by then. -/

namespace CestaPlan.Households
open Text Updates
open Calendar (Instant)

/-! ### The tables -/

inductive UserStatus where
  | active | suspended | anonymized
deriving DecidableEq

structure User where
  id : Nat
  publicId : String
  email : String
  displayName : Option String := none
  status : UserStatus := .active
deriving DecidableEq

structure Household where
  id : Nat
  name : String
  ownerUserId : Nat
  currency : String := "EUR"
  habitualWeeklySpend : Option ℚ := none
  deletedAt : Option Instant := none
deriving DecidableEq

/-- A member, linked to an account or not, with the dietary profiles. -/
structure HouseholdMember where
  id : Nat
  householdId : Nat
  userId : Option Nat
  role : Role
  displayName : Option String := none
  isEater : Bool := true
  joinedAt : Instant
  dietaryProfiles : List DietaryProfile := []

inductive InvitationRole where
  | editor | viewer
deriving DecidableEq

def InvitationRole.role : InvitationRole → Role
  | .editor => .editor
  | .viewer => .viewer

inductive InvitationStatus where
  | pending | accepted | revoked | expired
deriving DecidableEq

structure HouseholdInvitation where
  id : Nat
  householdId : Nat
  email : String
  role : InvitationRole
  tokenHash : String
  status : InvitationStatus := .pending
  invitedByUserId : Nat
  expiresAt : Instant
  acceptedAt : Option Instant := none
  acceptedUserId : Option Nat := none
deriving DecidableEq

structure Db where
  users : List User := []
  households : List Household := []
  members : List HouseholdMember := []
  invitations : List HouseholdInvitation := []
  /-- One sequence for the ids of all tables. -/
  nextId : Nat := 0

/-! ### Accounts and roles (`deps.py`) -/

inductive HttpError where
  | http (status : Nat) (detail : String)
  /-- A unique index refuses the row. -/
  | integrity
deriving DecidableEq

/-- `get_current_user`, of a session that is still valid. -/
def getCurrentUser (db : Db) (userId : Nat) : Except HttpError User :=
  match (row? (·.id) db.users userId).filter (·.status = .active) with
  | some user => .ok user
  | none => .error (.http 401 "Cuenta no disponible")

structure HouseholdContext where
  household : Household
  member : HouseholdMember

/-- The membership of an account in a household. -/
def membership (db : Db) (householdId userId : Nat) : Option HouseholdMember :=
  db.members.find? fun m => m.householdId = householdId && m.userId = some userId

def getHouseholdContext (db : Db) (householdId : Nat) (user : User) : Except HttpError HouseholdContext :=
  match (row? (·.id) db.households householdId).filter (·.deletedAt = none), membership db householdId user.id with
  | some household, some member => .ok { household := household, member := member }
  | _, _ => .error (.http 404 "Hogar no encontrado")

/-- The account that calls and its place in the household, if its role is among those allowed. -/
def requireHouseholdRole (db : Db) (householdId userId : Nat) (allowed : List Role) : Except HttpError (User × HouseholdContext) := do
  let user ← getCurrentUser db userId
  let ctx ← getHouseholdContext db householdId user
  if ctx.member.role ∈ allowed then pure (user, ctx)
  else throw (.http 403 "Permisos insuficientes para esta acción")

def requireEditor (db : Db) (householdId userId : Nat) : Except HttpError (User × HouseholdContext) :=
  requireHouseholdRole db householdId userId [.owner, .editor]

def requireOwner (db : Db) (householdId userId : Nat) : Except HttpError (User × HouseholdContext) :=
  requireHouseholdRole db householdId userId [.owner]

/-- An active account, and its place in a household that is not deleted. -/
structure Caller (db : Db) (householdId userId : Nat) (user : User) (ctx : HouseholdContext) : Prop where
  user_mem : user ∈ db.users
  user_id : user.id = userId
  active : user.status = .active
  household_mem : ctx.household ∈ db.households
  household_id : ctx.household.id = householdId
  household_live : ctx.household.deletedAt = none
  member_mem : ctx.member ∈ db.members
  member_household : ctx.member.householdId = householdId
  member_user : ctx.member.userId = some userId

section Callers
variable {db : Db} {householdId userId : Nat} {user : User} {ctx : HouseholdContext} {allowed : List Role}

theorem getCurrentUser_ok (h : getCurrentUser db userId = .ok user) :
    user ∈ db.users ∧ user.id = userId ∧ user.status = .active := by
  unfold getCurrentUser at h
  split at h
  · next found hfound =>
    cases h
    obtain ⟨hrow, hactive⟩ := Option.filter_eq_some_iff.mp hfound
    exact ⟨mem_of_row? hrow, key_of_row? hrow, of_decide_eq_true hactive⟩
  · cases h

theorem membership_some {m : HouseholdMember} (h : membership db householdId userId = some m) :
    m ∈ db.members ∧ m.householdId = householdId ∧ m.userId = some userId := by
  have hfound := List.find?_some h
  rw [Bool.and_eq_true] at hfound
  exact ⟨List.mem_of_find?_eq_some h, of_decide_eq_true hfound.1, of_decide_eq_true hfound.2⟩

theorem requireHouseholdRole_ok (h : requireHouseholdRole db householdId userId allowed = .ok (user, ctx)) :
    Caller db householdId userId user ctx ∧ ctx.member.role ∈ allowed := by
  obtain ⟨user', huser, h⟩ := Runs.bind_eq_ok.mp h
  obtain ⟨ctx', hctx, h⟩ := Runs.bind_eq_ok.mp h
  obtain ⟨hmem, hid, hactive⟩ := getCurrentUser_ok huser
  split at h
  · next hallowed =>
    cases h
    unfold getHouseholdContext at hctx
    split at hctx
    · next household member hhousehold hmember =>
      cases hctx
      obtain ⟨hrow, hlive⟩ := Option.filter_eq_some_iff.mp hhousehold
      obtain ⟨hmember, hof, huserId⟩ := membership_some hmember
      exact ⟨⟨hmem, hid, hactive, mem_of_row? hrow, key_of_row? hrow, of_decide_eq_true hlive, hmember, hof, hid ▸ huserId⟩,
        hallowed⟩
    · cases hctx
  · cases h

theorem requireHouseholdRole_of_mem {allowed' : List Role}
    (h : requireHouseholdRole db householdId userId allowed = .ok (user, ctx)) (hrole : ctx.member.role ∈ allowed') :
    requireHouseholdRole db householdId userId allowed' = .ok (user, ctx) := by
  obtain ⟨user', huser, h⟩ := Runs.bind_eq_ok.mp h
  obtain ⟨ctx', hctx, h⟩ := Runs.bind_eq_ok.mp h
  refine Runs.bind_eq_ok.mpr ⟨user', huser, Runs.bind_eq_ok.mpr ⟨ctx', hctx, ?_⟩⟩
  split at h
  · cases h
    exact if_pos hrole
  · cases h

theorem requireOwner_iff : requireOwner db householdId userId = .ok (user, ctx) ↔
    requireEditor db householdId userId = .ok (user, ctx) ∧ ctx.member.role = .owner := by
  constructor
  · intro h
    have howner := List.mem_singleton.mp (requireHouseholdRole_ok h).2
    exact ⟨requireHouseholdRole_of_mem h (by simp [howner]), howner⟩
  · rintro ⟨h, howner⟩
    exact requireHouseholdRole_of_mem h (List.mem_singleton.mpr howner)

end Callers

/-! ### Households and members -/

structure HouseholdCreate where
  name : String
  currency : String := "EUR"
  habitualWeeklySpend : Option ℚ := none

def createHousehold (db : Db) (payload : HouseholdCreate) (userId : Nat) (now : Instant) : Except HttpError Db := do
  let user ← getCurrentUser db userId
  let household : Household :=
    { id := db.nextId
      name := payload.name
      ownerUserId := user.id
      currency := payload.currency
      habitualWeeklySpend := payload.habitualWeeklySpend }
  let member : HouseholdMember :=
    { id := db.nextId + 1
      householdId := household.id
      userId := some user.id
      role := .owner
      displayName := user.displayName
      joinedAt := now }
  pure { db with
    households := db.households ++ [household]
    members := db.members ++ [member]
    nextId := db.nextId + 2 }

structure MemberCreate where
  displayName : String
  role : Role := .viewer
  isEater : Bool := true
  dietType : Option String := none
  notes : Option String := none
  nutritionGoal : Option NutritionGoalIn := none
  allergies : List AllergyIn := []
  intolerances : List String := []
  preferences : List PreferenceIn := []
  rejectedIngredients : List String := []

def MemberCreate.profile (payload : MemberCreate) : DietaryProfile where
  dietType := payload.dietType
  notes := payload.notes
  targets := applyNutritionGoal {} payload.nutritionGoal
  allergies := Collection.replace {} (buildAllergies payload.allergies payload.intolerances)
  foodPreferences := Collection.replace {} (buildPreferences payload.preferences payload.rejectedIngredients)

def addMember (db : Db) (payload : MemberCreate) (householdId userId : Nat) (now : Instant) : Except HttpError Db := do
  let (_, ctx) ← requireOwner db householdId userId
  let member : HouseholdMember :=
    { id := db.nextId
      householdId := ctx.household.id
      userId := none
      role := payload.role
      displayName := some payload.displayName
      isEater := payload.isEater
      joinedAt := now
      dietaryProfiles := [payload.profile] }
  pure { db with members := db.members ++ [member], nextId := db.nextId + 1 }

/-- A member without a profile gets one; of several, the first is updated. -/
def MemberUpdate.applyProfiles (payload : MemberUpdate) : List DietaryProfile → List DietaryProfile
  | [] => [payload.applyProfile {}]
  | profile :: others => payload.applyProfile profile :: others

def MemberUpdate.apply (payload : MemberUpdate) (member : HouseholdMember) : HouseholdMember :=
  { member with
    displayName := payload.displayName <|> member.displayName
    isEater := payload.isEater.getD member.isEater
    role := payload.role.getD member.role
    dietaryProfiles := payload.applyProfiles member.dietaryProfiles }

/-- The member of a household under an id. -/
def memberOf (db : Db) (householdId memberId : Nat) : Option HouseholdMember :=
  (row? (·.id) db.members memberId).filter (·.householdId = householdId)

def updateMember (db : Db) (payload : MemberUpdate) (memberId householdId userId : Nat) : Except HttpError Db := do
  let (_, ctx) ← requireEditor db householdId userId
  match memberOf db ctx.household.id memberId with
  | none => throw (.http 404 "Miembro no encontrado")
  | some member =>
    if payload.role ≠ none ∧ payload.role ≠ some member.role ∧ ctx.member.role ≠ .owner then
      throw (.http 403 "Solo el propietario puede cambiar roles")
    else pure { db with members := updateAt (·.id) memberId payload.apply db.members }

/-! ### Invitations -/

section Invitations
variable (lower hashToken : String → String)

/-- `_INVITATION_TTL_DAYS`, fourteen days. -/
def invitationTtl : Int := 14 * Calendar.dayLength

structure InvitationCreate where
  email : String
  role : InvitationRole := .viewer

/-- An account under the email is a member already. -/
def alreadyMember (db : Db) (householdId : Nat) (email : String) : Bool :=
  db.members.any fun m => m.householdId = householdId && db.users.any fun u => m.userId = some u.id && u.email = email

/-- The household has an invitation of the email whose status is `pending`. -/
def pendingInvitation (db : Db) (householdId : Nat) (email : String) : Bool :=
  db.invitations.any fun i => i.householdId = householdId && i.email = email && i.status = .pending

/-- `payload.email.strip().lower()` -/
def normalizeEmail (email : String) : String := lower (strip email)

/-- `create_invitation`, which draws `token`. -/
def createInvitation (db : Db) (payload : InvitationCreate) (token : String) (householdId userId : Nat) (now : Instant) :
    Except HttpError Db := do
  let (user, ctx) ← requireOwner db householdId userId
  let email := normalizeEmail lower payload.email
  if alreadyMember db ctx.household.id email then throw (.http 409 "Esta persona ya es miembro del hogar")
  else if pendingInvitation db ctx.household.id email then
    throw (.http 409 "Ya existe una invitación pendiente para este email")
  else if hashToken token ∈ db.invitations.map (·.tokenHash) then throw .integrity
  else
    let invitation : HouseholdInvitation :=
      { id := db.nextId
        householdId := ctx.household.id
        email := email
        role := payload.role
        tokenHash := hashToken token
        invitedByUserId := user.id
        expiresAt := now + invitationTtl }
    pure { db with invitations := db.invitations ++ [invitation], nextId := db.nextId + 1 }

def HouseholdInvitation.revoke (i : HouseholdInvitation) : HouseholdInvitation := { i with status := .revoked }

def revokeInvitation (db : Db) (invitationId householdId userId : Nat) : Except HttpError Db := do
  let (_, ctx) ← requireOwner db householdId userId
  match (row? (·.id) db.invitations invitationId).filter fun i =>
      i.householdId = ctx.household.id && i.status = .pending with
  | none => throw (.http 404 "Invitación no encontrada")
  | some _ => pure { db with invitations := updateAt (·.id) invitationId HouseholdInvitation.revoke db.invitations }

/-- `_effective_status`: a pending invitation past its expiry reads as expired. -/
def HouseholdInvitation.effectiveStatus (i : HouseholdInvitation) (now : Instant) : InvitationStatus :=
  if i.status = .pending ∧ i.expiresAt ≤ now then .expired else i.status

/-- The invitation of a token. -/
def invitationOf (db : Db) (token : String) : Option HouseholdInvitation :=
  row? (·.tokenHash) db.invitations (hashToken token)

structure InvitationPreview where
  email : String
  role : InvitationRole
  status : InvitationStatus
  emailMatches : Bool

def previewInvitation (db : Db) (token : String) (userId : Nat) (now : Instant) : Except HttpError InvitationPreview := do
  let user ← getCurrentUser db userId
  match invitationOf hashToken db token with
  | none => throw (.http 404 "Invitación no encontrada")
  | some invitation =>
    pure { email := invitation.email
           role := invitation.role
           status := invitation.effectiveStatus now
           emailMatches := normalizeEmail lower user.email = invitation.email }

def HouseholdInvitation.accept (userId : Nat) (now : Instant) (i : HouseholdInvitation) : HouseholdInvitation :=
  { i with status := .accepted, acceptedAt := some now, acceptedUserId := some userId }

def acceptInvitation (db : Db) (token : String) (userId : Nat) (now : Instant) : Except HttpError Db := do
  let user ← getCurrentUser db userId
  match invitationOf hashToken db token with
  | none => throw (.http 404 "Invitación no encontrada")
  | some invitation =>
    -- The status that is set here is lost with the request, which fails next.
    let invitation := { invitation with status := invitation.effectiveStatus now }
    if invitation.status = .expired then throw (.http 410 "La invitación ha caducado")
    else if invitation.status ≠ .pending then throw (.http 409 "La invitación ya no está disponible")
    else if normalizeEmail lower user.email ≠ invitation.email then
      throw (.http 403 "Esta invitación es para otra cuenta de correo")
    else if (membership db invitation.householdId user.id).isSome then throw (.http 409 "Ya eres miembro de este hogar")
    else
      let member : HouseholdMember :=
        { id := db.nextId
          householdId := invitation.householdId
          userId := some user.id
          role := invitation.role.role
          displayName := user.displayName
          joinedAt := now }
      pure { db with
        members := db.members ++ [member]
        invitations := updateAt (·.id) invitation.id (HouseholdInvitation.accept user.id now) db.invitations
        nextId := db.nextId + 1 }

end Invitations

/-! ### The deletion of an account -/

/-- The household has a member with another account. -/
def hasOthers (db : Db) (userId : Nat) (h : Household) : Bool :=
  db.members.any fun m => m.householdId = h.id && m.userId.isSome && m.userId ≠ some userId

def User.anonymize (u : User) : User :=
  { u with
    email := s!"anon+{u.publicId}@cuenta-eliminada.invalid"
    displayName := none
    status := .anonymized }

def anonymizeHousehold (db : Db) (userId : Nat) (now : Instant) (h : Household) : Household :=
  if h.ownerUserId = userId ∧ h.deletedAt = none ∧ hasOthers db userId h = false then { h with deletedAt := some now } else h

/-- `anonymize_account`, of the account that calls. -/
def anonymizeAccount (db : Db) (userId : Nat) (now : Instant) : Except HttpError Db := do
  let user ← getCurrentUser db userId
  pure { db with
    users := updateAt (·.id) user.id User.anonymize db.users
    households := db.households.map (anonymizeHousehold db user.id now)
    members := db.members.filter (·.userId ≠ some user.id) }

/-! ### Runs of requests -/

inductive Call where
  | createHousehold (payload : HouseholdCreate) (userId : Nat) (now : Instant)
  | addMember (payload : MemberCreate) (householdId userId : Nat) (now : Instant)
  | updateMember (payload : MemberUpdate) (memberId householdId userId : Nat)
  | createInvitation (payload : InvitationCreate) (token : String) (householdId userId : Nat) (now : Instant)
  | revokeInvitation (invitationId householdId userId : Nat)
  | previewInvitation (token : String) (userId : Nat) (now : Instant)
  | acceptInvitation (token : String) (userId : Nat) (now : Instant)
  | anonymizeAccount (userId : Nat) (now : Instant)

section Run
variable (lower hashToken : String → String)

/-- What a request leaves, or the error that it raises. -/
def answer (db : Db) : Call → Except HttpError Db
  | .createHousehold payload userId now => createHousehold db payload userId now
  | .addMember payload householdId userId now => addMember db payload householdId userId now
  | .updateMember payload memberId householdId userId => updateMember db payload memberId householdId userId
  | .createInvitation payload token householdId userId now =>
    createInvitation lower hashToken db payload token householdId userId now
  | .revokeInvitation invitationId householdId userId => revokeInvitation db invitationId householdId userId
  | .previewInvitation token userId now => (previewInvitation lower hashToken db token userId now).map fun _ => db
  | .acceptInvitation token userId now => acceptInvitation lower hashToken db token userId now
  | .anonymizeAccount userId now => anonymizeAccount db userId now

def step (db : Db) (call : Call) : Db := (answer lower hashToken db call).toOption.getD db

end Run

/-! ### What each request does -/

section Requests
variable {lower hashToken : String → String} {db db' : Db} {householdId userId memberId invitationId : Nat} {token : String}
  {now : Instant}

theorem createHousehold_ok {payload : HouseholdCreate} (h : createHousehold db payload userId now = .ok db') :
    ∃ user household member, getCurrentUser db userId = .ok user ∧ household.id = db.nextId ∧ member.id = db.nextId + 1 ∧
      member.householdId = household.id ∧ member.userId = some user.id ∧ member.role = .owner ∧
      db' = { db with
        households := db.households ++ [household], members := db.members ++ [member], nextId := db.nextId + 2 } := by
  obtain ⟨user, huser, h⟩ := Runs.bind_eq_ok.mp h
  cases h
  exact ⟨user, _, _, huser, rfl, rfl, rfl, rfl, rfl, rfl⟩

theorem addMember_ok {payload : MemberCreate} (h : addMember db payload householdId userId now = .ok db') :
    ∃ member, member.id = db.nextId ∧ member.userId = none ∧
      db' = { db with members := db.members ++ [member], nextId := db.nextId + 1 } := by
  obtain ⟨⟨user, ctx⟩, -, h⟩ := Runs.bind_eq_ok.mp h
  cases h
  exact ⟨_, rfl, rfl, rfl⟩

theorem updateMember_ok {payload : MemberUpdate} (h : updateMember db payload memberId householdId userId = .ok db') :
    ∃ user ctx member, requireEditor db householdId userId = .ok (user, ctx) ∧
      memberOf db ctx.household.id memberId = some member ∧
      (payload.role = none ∨ payload.role = some member.role ∨ ctx.member.role = .owner) ∧
      db' = { db with members := updateAt (·.id) memberId payload.apply db.members } := by
  obtain ⟨⟨user, ctx⟩, hctx, h⟩ := Runs.bind_eq_ok.mp h
  dsimp only at h
  split at h
  · cases h
  · next member hmember =>
    split at h
    · cases h
    · next hrole =>
      cases h
      refine ⟨user, ctx, member, hctx, hmember, ?_, rfl⟩
      rwa [not_and_or, not_and_or, not_not, not_not, not_not] at hrole

theorem updateMember_of_owner {payload : MemberUpdate} {user : User} {ctx : HouseholdContext} {m : HouseholdMember}
    (h : requireOwner db householdId userId = .ok (user, ctx)) (hm : memberOf db householdId memberId = some m) :
    updateMember db payload memberId householdId userId =
      .ok { db with members := updateAt (·.id) memberId payload.apply db.members } := by
  obtain ⟨hctx, howner⟩ := requireOwner_iff.mp h
  have hid := (requireHouseholdRole_ok hctx).1.household_id
  refine Runs.bind_eq_ok.mpr ⟨(user, ctx), hctx, ?_⟩
  simp only [hid, hm, howner, ne_eq, not_true_eq_false, and_false, if_false]
  rfl

theorem createInvitation_ok {payload : InvitationCreate}
    (h : createInvitation lower hashToken db payload token householdId userId now = .ok db') :
    ∃ user ctx invitation, requireOwner db householdId userId = .ok (user, ctx) ∧
      pendingInvitation db ctx.household.id (normalizeEmail lower payload.email) = false ∧
      invitation.id = db.nextId ∧ invitation.status = .pending ∧ invitation.tokenHash = hashToken token ∧
      hashToken token ∉ db.invitations.map (·.tokenHash) ∧
      db' = { db with invitations := db.invitations ++ [invitation], nextId := db.nextId + 1 } := by
  obtain ⟨⟨user, ctx⟩, hctx, h⟩ := Runs.bind_eq_ok.mp h
  dsimp only at h
  split at h
  · cases h
  · split at h
    · cases h
    · next hpending =>
      split at h
      · cases h
      · next htoken =>
        cases h
        exact ⟨user, ctx, _, hctx, Bool.eq_false_iff.mpr hpending, rfl, rfl, rfl, htoken, rfl⟩

theorem revokeInvitation_ok (h : revokeInvitation db invitationId householdId userId = .ok db') :
    ∃ invitation, row? (·.id) db.invitations invitationId = some invitation ∧ invitation.status = .pending ∧
      db' = { db with invitations := updateAt (·.id) invitationId HouseholdInvitation.revoke db.invitations } := by
  obtain ⟨⟨user, ctx⟩, -, h⟩ := Runs.bind_eq_ok.mp h
  dsimp only at h
  split at h
  · cases h
  · next invitation hfound =>
    cases h
    obtain ⟨hrow, hpending⟩ := Option.filter_eq_some_iff.mp hfound
    rw [Bool.and_eq_true] at hpending
    exact ⟨invitation, hrow, of_decide_eq_true hpending.2, rfl⟩

theorem effectiveStatus_eq_pending {i : HouseholdInvitation} :
    i.effectiveStatus now = .pending ↔ i.status = .pending ∧ now < i.expiresAt := by
  unfold HouseholdInvitation.effectiveStatus
  split
  · next hexpired =>
    refine iff_of_false (fun h => by cases h) fun h => ?_
    exact absurd hexpired.2 (not_le.mpr h.2)
  · next hlive => exact ⟨fun h => ⟨h, not_le.mp fun hle => hlive ⟨h, hle⟩⟩, fun h => h.1⟩

theorem acceptInvitation_ok (h : acceptInvitation lower hashToken db token userId now = .ok db') :
    ∃ user invitation member, getCurrentUser db userId = .ok user ∧ invitationOf hashToken db token = some invitation ∧
      invitation.status = .pending ∧ now < invitation.expiresAt ∧ normalizeEmail lower user.email = invitation.email ∧
      member.id = db.nextId ∧ member.role = invitation.role.role ∧
      db' = { db with
        members := db.members ++ [member]
        invitations := updateAt (·.id) invitation.id (HouseholdInvitation.accept user.id now) db.invitations
        nextId := db.nextId + 1 } := by
  obtain ⟨user, huser, h⟩ := Runs.bind_eq_ok.mp h
  dsimp only at h
  split at h
  · cases h
  · next invitation hinvitation =>
    split at h
    · cases h
    · split at h
      · cases h
      · next hpending =>
        obtain ⟨hstatus, hnow⟩ := effectiveStatus_eq_pending.mp (not_not.mp hpending)
        split at h
        · cases h
        · next hemail =>
          split at h
          · cases h
          · cases h
            exact ⟨user, invitation, _, huser, hinvitation, hstatus, hnow, not_not.mp hemail, rfl, rfl, rfl⟩

theorem previewInvitation_ok (h : answer lower hashToken db (.previewInvitation token userId now) = .ok db') : db' = db := by
  rw [answer] at h
  cases hpreview : previewInvitation lower hashToken db token userId now with
  | error e =>
    rw [hpreview] at h
    cases h
  | ok preview =>
    rw [hpreview] at h
    cases h
    rfl

theorem anonymizeAccount_ok (h : anonymizeAccount db userId now = .ok db') :
    ∃ user, getCurrentUser db userId = .ok user ∧ db' = { db with
      users := updateAt (·.id) userId User.anonymize db.users
      households := db.households.map (anonymizeHousehold db userId now)
      members := db.members.filter (·.userId ≠ some userId) } := by
  obtain ⟨user, huser, hok⟩ := Runs.bind_eq_ok.mp h
  obtain rfl := (getCurrentUser_ok huser).2.1
  cases hok
  exact ⟨user, huser, rfl⟩

end Requests

/-! ### The keys -/

/-- The ids of the members are their own. -/
structure MembersKeyed (db : Db) : Prop where
  nodup : (db.members.map (·.id)).Nodup
  fresh : ∀ m ∈ db.members, m.id < db.nextId

section Keys
variable {lower hashToken : String → String} {db db' : Db} {memberId : Nat} {m : HouseholdMember}

theorem MembersKeyed.append (h : MembersKeyed db) (hnew : db'.members = db.members ++ [m]) (hid : db.nextId ≤ m.id)
    (hnext : m.id < db'.nextId) : MembersKeyed db' where
  nodup := by
    rw [hnew, List.map_append]
    refine List.Nodup.append h.nodup (List.nodup_singleton _) (List.disjoint_singleton.mpr fun hmem => ?_)
    obtain ⟨x, hx, hxid⟩ := List.mem_map.mp hmem
    exact absurd hxid ((h.fresh x hx).trans_le hid).ne
  fresh x hx := by
    rw [hnew, List.mem_append, List.mem_singleton] at hx
    rcases hx with hx | rfl
    · exact ((h.fresh x hx).trans_le hid).trans hnext
    · exact hnext

theorem MembersKeyed.update (h : MembersKeyed db) (payload : MemberUpdate) :
    MembersKeyed { db with members := updateAt (·.id) memberId payload.apply db.members } where
  nodup := by
    have hids : (updateAt (·.id) memberId payload.apply db.members).map (·.id) = db.members.map (·.id) :=
      map_updateAt fun _ => rfl
    exact hids ▸ h.nodup
  fresh x hx := by
    obtain ⟨y, hy, rfl⟩ := mem_updateAt.mp hx
    have := h.fresh y hy
    split <;> exact this

theorem MembersKeyed.step (h : MembersKeyed db) (call : Call) : MembersKeyed (step lower hashToken db call) := by
  cases hanswer : answer lower hashToken db call with
  | error e =>
    rw [Households.step, hanswer]
    exact h
  | ok db' =>
    rw [Households.step, hanswer]
    cases call with
    | createHousehold payload userId now =>
      obtain ⟨user, household, member, -, -, hid, -, -, -, rfl⟩ := createHousehold_ok hanswer
      exact h.append rfl (by omega) (hid ▸ Nat.lt_succ_self _)
    | addMember payload householdId userId now =>
      obtain ⟨member, hid, -, rfl⟩ := addMember_ok hanswer
      exact h.append rfl hid.ge (hid ▸ Nat.lt_succ_self _)
    | updateMember payload memberId householdId userId =>
      obtain ⟨-, -, -, -, -, -, rfl⟩ := updateMember_ok hanswer
      exact h.update payload
    | createInvitation payload token householdId userId now =>
      obtain ⟨-, -, -, -, -, -, -, -, -, rfl⟩ := createInvitation_ok hanswer
      exact ⟨h.nodup, fun m hm => (h.fresh m hm).trans (Nat.lt_succ_self _)⟩
    | revokeInvitation invitationId householdId userId =>
      obtain ⟨-, -, -, rfl⟩ := revokeInvitation_ok hanswer
      exact ⟨h.nodup, h.fresh⟩
    | previewInvitation token userId now =>
      obtain rfl := previewInvitation_ok hanswer
      exact h
    | acceptInvitation token userId now =>
      obtain ⟨-, -, member, -, -, -, -, -, hid, -, rfl⟩ := acceptInvitation_ok hanswer
      exact h.append rfl hid.ge (hid ▸ Nat.lt_succ_self _)
    | anonymizeAccount userId now =>
      obtain ⟨-, -, rfl⟩ := anonymizeAccount_ok hanswer
      exact ⟨h.nodup.sublist (List.filter_sublist.map _), fun m hm => h.fresh m (List.mem_of_mem_filter hm)⟩

theorem memberOf_of_mem (hk : MembersKeyed db) (hm : m ∈ db.members) : memberOf db m.householdId m.id = some m := by
  rw [memberOf, row?_of_mem hk.nodup hm]
  exact Option.filter_eq_some_iff.mpr ⟨rfl, decide_eq_true rfl⟩

end Keys
end CestaPlan.Households
