import CestaPlan.Households.Endpoints

/-! Invitations over a run of requests. An invitation that has been accepted or revoked is closed for good; one that has
    run out is only read as expired, and its row stays pending. -/

namespace CestaPlan.Households
open Updates
open Calendar (Instant)

section Invitations
variable (lower hashToken : String → String)

/-- The invitation that a request accepts. -/
def accepted? (db : Db) : Call → Option HouseholdInvitation
  | .acceptInvitation token userId now =>
    match acceptInvitation lower hashToken db token userId now with
    | .ok _ => invitationOf hashToken db token
    | .error _ => none
  | _ => none

/-- The id of the invitation that a request revokes. -/
def revoked? (db : Db) : Call → Option Nat
  | .revokeInvitation invitationId householdId userId =>
    match revokeInvitation db invitationId householdId userId with
    | .ok _ => some invitationId
    | .error _ => none
  | _ => none

/-- The request comes before the expiry, from an active account with the invited email. -/
def InTime (db : Db) (i : HouseholdInvitation) : Call → Prop
  | .acceptInvitation _ userId now =>
    now < i.expiresAt ∧ ∃ user ∈ db.users, user.id = userId ∧ user.status = .active ∧ normalizeEmail lower user.email = i.email
  | _ => False

/-- Every acceptance of the run is in time, and the first of its invitation, which was not revoked before. -/
def AcceptedOnce (db : Db) (calls : List Call) : Prop :=
  ∀ pre call, pre ++ [call] <+: calls → ∀ i, accepted? lower hashToken (pre.foldl (step lower hashToken) db) call = some i →
    InTime lower (pre.foldl (step lower hashToken) db) i call ∧
      ∀ pre' call', pre' ++ [call'] <+: pre →
        (∀ j, accepted? lower hashToken (pre'.foldl (step lower hashToken) db) call' = some j → j.id ≠ i.id) ∧
          revoked? (pre'.foldl (step lower hashToken) db) call' ≠ some i.id

/-- An owner calls, with a new token, for an email that is not a member's and has no pending invitation that still runs. -/
structure MayInvite (db : Db) (payload : InvitationCreate) (token : String) (householdId userId : Nat) (now : Instant) : Prop where
  owner : ∃ caller, requireOwner db householdId userId = .ok caller
  token : hashToken token ∉ db.invitations.map (·.tokenHash)
  notMember : alreadyMember db householdId (normalizeEmail lower payload.email) = false
  notPending : ∀ i ∈ db.invitations, i.householdId = householdId → i.email = normalizeEmail lower payload.email →
    i.status = .pending → i.expiresAt ≤ now

/-- An owner who may invite does. -/
def Invites (db : Db) : Call → Prop
  | .createInvitation payload token householdId userId now =>
    MayInvite lower hashToken db payload token householdId userId now →
      ∃ db', createInvitation lower hashToken db payload token householdId userId now = .ok db'
  | _ => True

/-- Where an owner may invite, no invitation of the email that has run out is still stored as pending. -/
def NoneStale (db : Db) : Call → Prop
  | .createInvitation payload token householdId userId now =>
    MayInvite lower hashToken db payload token householdId userId now →
      ∀ i ∈ db.invitations, i.householdId = householdId → i.email = normalizeEmail lower payload.email →
        i.expiresAt ≤ now → i.status ≠ .pending
  | _ => True

end Invitations

/-- The ids of the invitations come from the sequence. -/
def InvitationsFresh (db : Db) : Prop := ∀ i ∈ db.invitations, i.id < db.nextId

/-- No invitation under the id is pending, or will ever be. -/
structure Closed (db : Db) (id : Nat) : Prop where
  used : id < db.nextId
  status : ∀ i ∈ db.invitations, i.id = id → i.status ≠ .pending

/-- What a request may do to the invitations: add one, and close others. -/
structure Evolves (db db' : Db) : Prop where
  nextId : db.nextId ≤ db'.nextId
  invitations : ∀ j ∈ db'.invitations,
    (∃ i ∈ db.invitations, i.id = j.id ∧ (j.status = .pending → i.status = .pending)) ∨ db.nextId ≤ j.id ∧ j.id < db'.nextId

section Steps
variable {lower hashToken : String → String} {db db' : Db} {id : Nat} {call : Call} {i : HouseholdInvitation}

theorem Evolves.of_eq (h : db'.invitations = db.invitations) (hnext : db.nextId ≤ db'.nextId) : Evolves db db' :=
  ⟨hnext, fun j hj => Or.inl ⟨j, h ▸ hj, rfl, fun hpending => hpending⟩⟩

/-- An update that leaves no row pending closes the invitations of the id. -/
theorem Evolves.close (f : HouseholdInvitation → HouseholdInvitation) (hid : ∀ i, (f i).id = i.id)
    (hclosed : ∀ i, (f i).status ≠ .pending) (hnext : db.nextId ≤ db'.nextId)
    (h : db'.invitations = updateAt (·.id) id f db.invitations) : Evolves db db' := by
  refine ⟨hnext, fun j hj => Or.inl ?_⟩
  rw [h] at hj
  obtain ⟨i, hi, rfl⟩ := mem_updateAt.mp hj
  refine ⟨i, hi, ?_, ?_⟩
  · split
    · exact (hid i).symm
    · rfl
  · split
    · exact fun hpending => absurd hpending (hclosed i)
    · exact fun hpending => hpending

theorem Closed.of_close (f : HouseholdInvitation → HouseholdInvitation) (hclosed : ∀ i, (f i).status ≠ .pending) (hused : id < db'.nextId)
    (h : db'.invitations = updateAt (·.id) id f db.invitations) : Closed db' id := by
  refine ⟨hused, fun j hj hjid => ?_⟩
  rw [h] at hj
  obtain ⟨i, hi, rfl⟩ := mem_updateAt.mp hj
  by_cases hhit : i.id = id
  · rw [if_pos hhit]
    exact hclosed i
  · rw [if_neg hhit] at hjid
    exact absurd hjid hhit

theorem evolves_step : Evolves db (step lower hashToken db call) := by
  cases hanswer : answer lower hashToken db call with
  | error e =>
    rw [step, hanswer]
    exact Evolves.of_eq rfl le_rfl
  | ok db' =>
    rw [step, hanswer]
    cases call with
    | createHousehold payload userId now =>
      obtain ⟨-, -, -, -, -, -, -, -, -, rfl⟩ := createHousehold_ok hanswer
      exact Evolves.of_eq rfl (Nat.le_add_right _ _)
    | addMember payload householdId userId now =>
      obtain ⟨-, -, -, rfl⟩ := addMember_ok hanswer
      exact Evolves.of_eq rfl (Nat.le_succ _)
    | updateMember payload memberId householdId userId =>
      obtain ⟨-, -, -, -, -, -, rfl⟩ := updateMember_ok hanswer
      exact Evolves.of_eq rfl le_rfl
    | createInvitation payload token householdId userId now =>
      obtain ⟨-, -, invitation, -, -, hid, -, -, -, rfl⟩ := createInvitation_ok hanswer
      refine ⟨Nat.le_succ _, fun j hj => ?_⟩
      rcases List.mem_append.mp hj with hold | hnew
      · exact Or.inl ⟨j, hold, rfl, fun hpending => hpending⟩
      · obtain rfl := List.mem_singleton.mp hnew
        exact Or.inr ⟨hid.ge, hid ▸ Nat.lt_succ_self _⟩
    | revokeInvitation invitationId householdId userId =>
      obtain ⟨-, -, -, rfl⟩ := revokeInvitation_ok hanswer
      exact Evolves.close HouseholdInvitation.revoke (fun _ => rfl) (fun _ => InvitationStatus.noConfusion) le_rfl rfl
    | previewInvitation token userId now =>
      obtain rfl := previewInvitation_ok hanswer
      exact Evolves.of_eq rfl le_rfl
    | acceptInvitation token userId now =>
      obtain ⟨user, -, -, -, -, -, -, -, -, -, rfl⟩ := acceptInvitation_ok hanswer
      exact Evolves.close (HouseholdInvitation.accept user.id now) (fun _ => rfl) (fun _ => InvitationStatus.noConfusion)
        (Nat.le_succ _) rfl
    | anonymizeAccount userId now =>
      obtain ⟨-, -, rfl⟩ := anonymizeAccount_ok hanswer
      exact Evolves.of_eq rfl le_rfl

theorem InvitationsFresh.evolve (h : InvitationsFresh db) (he : Evolves db db') : InvitationsFresh db' := by
  intro j hj
  rcases he.invitations j hj with ⟨i, hi, hid, -⟩ | ⟨-, hlt⟩
  · exact hid ▸ (h i hi).trans_le he.nextId
  · exact hlt

theorem Closed.evolve (h : Closed db id) (he : Evolves db db') : Closed db' id where
  used := h.used.trans_le he.nextId
  status j hj hjid hpending := by
    rcases he.invitations j hj with ⟨i, hi, hid, hsame⟩ | ⟨hle, -⟩
    · exact h.status i hi (hid.trans hjid) (hsame hpending)
    · have := h.used
      omega

/-! ### Acceptance and revocation -/

theorem accepted?_some (hfresh : InvitationsFresh db) (h : accepted? lower hashToken db call = some i) :
    i ∈ db.invitations ∧ i.status = .pending ∧ InTime lower db i call ∧ Closed (step lower hashToken db call) i.id := by
  cases call with
  | acceptInvitation token userId now =>
    rw [accepted?] at h
    split at h
    · next db' hok =>
      obtain ⟨user, invitation, member, huser, hfound, hpending, hnow, hemail, -, -, hdb'⟩ := acceptInvitation_ok hok
      obtain rfl := Option.some.inj (h.symm.trans hfound)
      obtain ⟨hmem, hid, hactive⟩ := getCurrentUser_ok huser
      have hi := mem_of_row? hfound
      refine ⟨hi, hpending, ⟨hnow, user, hmem, hid, hactive, hemail⟩, ?_⟩
      rw [step, answer, hok, hdb']
      exact Closed.of_close (HouseholdInvitation.accept user.id now) (fun _ => InvitationStatus.noConfusion)
        ((hfresh i hi).trans (Nat.lt_succ_self _)) rfl
    · cases h
  | _ => cases h

theorem revoked?_some (hfresh : InvitationsFresh db) (h : revoked? db call = some id) :
    Closed (step lower hashToken db call) id := by
  cases call with
  | revokeInvitation invitationId householdId userId =>
    rw [revoked?] at h
    split at h
    · next db' hok =>
      obtain rfl := Option.some.inj h
      obtain ⟨invitation, hrow, -, hdb'⟩ := revokeInvitation_ok hok
      have hlt := hfresh invitation (mem_of_row? hrow)
      rw [key_of_row? hrow] at hlt
      rw [step, answer, hok, hdb']
      exact Closed.of_close HouseholdInvitation.revoke (fun _ => InvitationStatus.noConfusion) hlt rfl
    · cases h
  | _ => cases h

theorem fresh_run (h : InvitationsFresh db) (calls : List Call) : InvitationsFresh (calls.foldl (step lower hashToken) db) :=
  Runs.foldl_induction (I := InvitationsFresh) (fun _ hs _ _ => hs.evolve evolves_step) h

theorem closed_run (h : Closed db id) (calls : List Call) : Closed (calls.foldl (step lower hashToken) db) id :=
  Runs.foldl_induction (I := (Closed · id)) (fun _ hs _ _ => hs.evolve evolves_step) h

theorem closed_of_earlier {calls pre : List Call} (hpre : pre ++ [call] <+: calls)
    (h : Closed (step lower hashToken (pre.foldl (step lower hashToken) db) call) id) :
    Closed (calls.foldl (step lower hashToken) db) id := by
  obtain ⟨rest, rfl⟩ := hpre
  rw [List.append_assoc, List.foldl_append, List.singleton_append, List.foldl_cons]
  exact closed_run h rest

theorem acceptedOnce (hfresh : InvitationsFresh db) (calls : List Call) : AcceptedOnce lower hashToken db calls := by
  intro pre call hpre i haccepted
  obtain ⟨hi, hpending, hintime, -⟩ := accepted?_some (fresh_run hfresh pre) haccepted
  refine ⟨hintime, fun pre' call' hpre' => ⟨fun j hj hid => ?_, fun hrevoked => ?_⟩⟩
  · obtain ⟨-, -, -, hclosed⟩ := accepted?_some (fresh_run hfresh pre') hj
    exact (closed_of_earlier hpre' hclosed).status i hi hid.symm hpending
  · exact (closed_of_earlier hpre' (revoked?_some (fresh_run hfresh pre') hrevoked)).status i hi rfl hpending

/-! ### New invitations -/

theorem pendingInvitation_eq_false {householdId : Nat} {email : String} : pendingInvitation db householdId email = false ↔
    ∀ i ∈ db.invitations, i.householdId = householdId → i.email = email → i.status ≠ .pending := by
  simp [pendingInvitation]

theorem invites_iff : Invites lower hashToken db call ↔ NoneStale lower hashToken db call := by
  cases call with
  | createInvitation payload token householdId userId now =>
    refine forall_congr' fun hmay => ?_
    constructor
    · rintro ⟨db', hok⟩ i hi hhousehold hemail _
      obtain ⟨user, ctx, -, hctx, hnone, -⟩ := createInvitation_ok hok
      rw [(requireHouseholdRole_ok hctx).1.household_id] at hnone
      exact pendingInvitation_eq_false.mp hnone i hi hhousehold hemail
    · intro hstale
      obtain ⟨⟨user, ctx⟩, hctx⟩ := hmay.owner
      have hnone : pendingInvitation db householdId (normalizeEmail lower payload.email) = false :=
        pendingInvitation_eq_false.mpr fun i hi hhousehold hemail hpending =>
          hstale i hi hhousehold hemail (hmay.notPending i hi hhousehold hemail hpending) hpending
      have hid := (requireHouseholdRole_ok hctx).1.household_id
      subst hid
      rw [createInvitation, hctx]
      exact ⟨_, (if_neg (Bool.eq_false_iff.mp hmay.notMember)).trans
        ((if_neg (Bool.eq_false_iff.mp hnone)).trans (if_neg hmay.token))⟩
  | _ => exact Iff.rfl

end Steps

/-- Over any run every acceptance is in time and the only one, and nobody is kept from inviting, exactly when no invitation
    that has run out is in the way. -/
theorem invitations_iff (lower hashToken : String → String) (db : Db) (hfresh : InvitationsFresh db) (calls : List Call) :
    (AcceptedOnce lower hashToken db calls ∧
      ∀ pre call, pre ++ [call] <+: calls → Invites lower hashToken (pre.foldl (step lower hashToken) db) call) ↔
        ∀ pre call, pre ++ [call] <+: calls → NoneStale lower hashToken (pre.foldl (step lower hashToken) db) call := by
  constructor
  · exact fun h pre call hpre => invites_iff.mp (h.2 pre call hpre)
  · exact fun h => ⟨acceptedOnce hfresh calls, fun pre call hpre => invites_iff.mpr (h pre call hpre)⟩

/-! ### A guest who never answered -/

def lonely : Db where
  users := [{ id := 1, publicId := "a", email := "ana@example.com" }]
  households := [{ id := 10, name := "Casa", ownerUserId := 1 }]
  members := [{ id := 11, householdId := 10, userId := some 1, role := .owner, joinedAt := 0 }]
  nextId := 12

def carla : InvitationCreate := { email := "carla@example.com" }

def staleInvitation : HouseholdInvitation where
  id := 12
  householdId := 10
  email := "carla@example.com"
  role := .viewer
  tokenHash := "x"
  invitedByUserId := 1
  expiresAt := invitationTtl

theorem invited : (step id id lonely (.createInvitation carla "x" 10 1 0)).invitations = [staleInvitation] := by
  decide +kernel

/-- The owner revokes the invitation that has run out, and then invites again. -/
def revokedFirst : List Call :=
  [.createInvitation carla "x" 10 1 0, .revokeInvitation 12 10 1, .createInvitation carla "y" 10 1 (invitationTtl + 1)]

theorem revoked : ((revokedFirst.take 2).foldl (step id id) lonely).invitations = [staleInvitation.revoke] := by
  decide +kernel

theorem invitations_iff_revokedFirst : AcceptedOnce id id lonely revokedFirst ∧
    ∀ pre call, pre ++ [call] <+: revokedFirst → Invites id id (pre.foldl (step id id) lonely) call := by
  refine (invitations_iff id id lonely (fun _ h => absurd h List.not_mem_nil) revokedFirst).mpr ?_
  simp only [revokedFirst, Runs.forall_prefix_concat_cons]
  refine ⟨fun _ i hi => absurd hi List.not_mem_nil, trivial, fun _ i hi _ _ _ => ?_, fun pre call hpre => ?_⟩
  · obtain rfl := List.mem_singleton.mp (revoked ▸ hi)
    exact InvitationStatus.noConfusion
  · simp at hpre

/-- Once the first invitation has run out, a second one is refused. -/
theorem not_invites_carla : ¬∀ calls : List Call, AcceptedOnce id id lonely calls ∧
    ∀ pre call, pre ++ [call] <+: calls → Invites id id (pre.foldl (step id id) lonely) call := by
  intro h
  have hinvites := (h [.createInvitation carla "x" 10 1 0, .createInvitation carla "y" 10 1 (invitationTtl + 1)]).2
    [.createInvitation carla "x" 10 1 0] _ List.prefix_rfl
  obtain ⟨db', hok⟩ := hinvites {
    owner := ⟨_, rfl⟩
    token := by decide +kernel
    notMember := by decide +kernel
    notPending := by
      intro i hi _ _ _
      obtain rfl := List.mem_singleton.mp (invited ▸ hi)
      exact Int.le_add_one le_rfl }
  have hrefused : (createInvitation id id (step id id lonely (.createInvitation carla "x" 10 1 0)) carla "y" 10 1
      (invitationTtl + 1)).toOption.isSome = false := by decide +kernel
  rw [List.foldl_cons, List.foldl_nil] at hok
  rw [hok] at hrefused
  cases hrefused

end CestaPlan.Households
