import Towerdesk.Providers.Service
import Towerdesk.Providers.Standing

/-!
# What the calls do to the standing of users

Every step of every call leaves the standing of users with providers as it is or makes one
move, and the recipients of notifications and the memberships that are let in are what the
standing says.
-/

namespace Towerdesk.Providers

open Auth (Env)
open Script (query atomic until_done_bind always_bind always_query always_atomic)
open Transaction (final)

def standing (db : Db) : Standing where
  membership providerId userId :=
    (db.memberships.findUnique (providerId, userId)).map fun m => (m.role, m.isActive)
  userActive userId := (db.accounts.users.findUnique userId).any (·.isActive)
  providerActive providerId := (db.providers.findUnique providerId).any (·.isActive)
  grants := db.accounts.serviceProviderAccessGrants.rows.map (·.toServiceProviderAccessGrant)

inductive GrantCall
  | createPendingInvite (env : Env) (input : GrantInput) (email : String)
  | resendInvite (env : Env) (input : GrantInput) (grantId : Id)
  | disableGrant (env : Env) (input : GrantInput) (grantId : Id)
      (verificationMethod : Option String)
  | redeem (env : Env) (token newPassword : String)

inductive StaffCall
  | createStaff (env : Env) (user : Option AuthenticatedUser) (dto : CreateProviderStaffDto)
  | updateStaff (user : Option AuthenticatedUser) (staffUserId : Id) (dto : UpdateProviderStaffDto)
  | updateProfile (user : Option AuthenticatedUser) (dto : UpdateServiceProviderDto)

inductive ProviderCall
  | grant (call : GrantCall)
  | staff (call : StaffCall)

def discard {α : Type} (c : Call α) : Call Unit := c >>= fun _ => pure ()

def callScript : ProviderCall → Call Unit
  | .grant (.createPendingInvite env input email) => discard (createPendingInvite env input email)
  | .grant (.resendInvite env input grantId) => resendInvite env input grantId
  | .grant (.disableGrant env input grantId verificationMethod) =>
    disableGrant env input grantId verificationMethod
  | .grant (.redeem env token newPassword) => resetPassword env token newPassword
  | .staff (.createStaff env user dto) => discard (createStaff env user dto)
  | .staff (.updateStaff user staffUserId dto) => discard (updateStaff user staffUserId dto)
  | .staff (.updateProfile user dto) => updateProfile user dto

/-- The effect of a statement. -/
def effectOf {α : Type} (w : Statement α) (db : Db) : Db := final (w db)

/-- The move of a step that goes through. -/
inductive Performs : ProviderCall → (Db → Db) → Db → Move → Prop
  | newUser {call : ProviderCall} {row : Auth.User} {db db' : Db} {a : Auth.User}
      (h : createStandaloneUser row db = .ok a db') :
      Performs call (effectOf (createStandaloneUser row)) db (.newUser row.id row.isActive)
  | setMember {call : ProviderCall} {providerId userId : Id} {role : ServiceProviderUserRole}
      {isActive : Bool} {db db' : Db} {a : ServiceProviderUser}
      (h : upsertMembership providerId userId role isActive db = .ok a db') :
      Performs call (effectOf (upsertMembership providerId userId role isActive)) db
        (.setMember providerId userId role isActive)
  | openGrant {call : ProviderCall} {actorUserId : Id} {grant : Auth.ServiceProviderAccessGrant}
      {db db' : Db} {a : Auth.ServiceProviderAccessGrant} (hpending : grant.status = .PENDING)
      (h : createAccessGrant actorUserId grant db = .ok a db') :
      Performs call (effectOf (createAccessGrant actorUserId grant)) db
        (.openGrant grant.toServiceProviderAccessGrant)
  | disable {call : ProviderCall} {actorUserId grantId : Id} {now : Date}
      {verificationMethod : Option String} {db db' : Db}
      (h : updateAccessGrant grantId (some actorUserId)
        (grantDisabled now actorUserId verificationMethod) db = .ok () db') :
      Performs call (effectOf (updateAccessGrant grantId (some actorUserId)
        (grantDisabled now actorUserId verificationMethod))) db (.disable grantId)
  | accept {env : Env} {token newPassword : String} {t : Auth.PasswordResetToken} {u : Auth.User}
      {db db' : Db}
      (htoken : Auth.findTokenWithUser (env.hashToken (trimString token)) db.accounts =
        some (t, u)) (hpurpose : t.purpose = .PROVIDER_INVITE)
      (h : onAccounts (Auth.resetPassword env token newPassword) db = .ok () db') :
      Performs (.grant (.redeem env token newPassword))
        (effectOf (onAccounts (Auth.resetPassword env token newPassword))) db (.accept t.userId)
  | setProvider {user : Option AuthenticatedUser} {dto : UpdateServiceProviderDto}
      {providerId : Id} {data : ServiceProviderUpdateData} {isActive : Bool} {db db' : Db}
      (hactive : data.isActive = some isActive)
      (h : updatePortalView providerId data db = .ok () db') :
      Performs (.staff (.updateProfile user dto)) (effectOf (updatePortalView providerId data)) db
        (.setProvider providerId isActive)

section Reading

variable {db : Db} {providerId userId : Id}

theorem membership_eq_some {role : ServiceProviderUserRole} {isActive : Bool} :
    (standing db).membership providerId userId = some (role, isActive) ↔
      (⟨providerId, userId, role, isActive⟩ : ServiceProviderUser) ∈ db.memberships := by
  simp only [standing, Option.map_eq_some_iff, Table.findUnique_eq_some, Prod.mk.injEq]
  constructor
  · rintro ⟨⟨p, u, r, a⟩, ⟨hm, hkey⟩, rfl, rfl⟩
    obtain ⟨rfl, rfl⟩ := Prod.mk.inj hkey
    exact hm
  · exact fun hm => ⟨_, ⟨hm, rfl⟩, rfl, rfl⟩

theorem mem_getActiveProviderManagers :
    userId ∈ getActiveProviderManagers db providerId ↔
      (standing db).Manages providerId userId := by
  simp only [getActiveProviderManagers, List.mem_dedup, List.mem_map, List.mem_filter,
    decide_eq_true_eq, Standing.Manages, membership_eq_some]
  constructor
  · rintro ⟨⟨p, u, r, a⟩, ⟨hm, rfl, rfl, rfl, huser, hprovider⟩, rfl⟩
    exact ⟨hm, huser, hprovider⟩
  · rintro ⟨hm, huser, hprovider⟩
    exact ⟨_, ⟨hm, rfl, rfl, rfl, huser, hprovider⟩, rfl⟩

theorem exists_grant {P : ServiceProviderAccessGrant → Prop} :
    (∃ g ∈ (standing db).grants, P g) ↔
      ∃ g ∈ db.accounts.serviceProviderAccessGrants, P g.toServiceProviderAccessGrant := by
  simp only [standing, List.mem_map]
  constructor
  · rintro ⟨_, ⟨g, hg, rfl⟩, hP⟩
    exact ⟨g, hg, hP⟩
  · rintro ⟨g, hg, hP⟩
    exact ⟨_, ⟨g, hg, rfl⟩, hP⟩

theorem toAccessibleMembership_eq_some {m m' : ServiceProviderUser} :
    toAccessibleMembership db userId m = some m' ↔
      m = m' ∧ ¬ (standing db).Blocked m.serviceProviderId userId := by
  have hblocked : (standing db).Blocked m.serviceProviderId userId ↔
      (db.accounts.serviceProviderAccessGrants.rows.filter fun g =>
          g.serviceProviderId = m.serviceProviderId ∧ g.userId = some userId) ≠ [] ∧
        (!(db.accounts.serviceProviderAccessGrants.rows.filter fun g =>
          g.serviceProviderId = m.serviceProviderId ∧ g.userId = some userId).any
            (·.status = .ACTIVE)) = true := by
    rw [Standing.Blocked, exists_grant, ne_eq, List.filter_eq_nil_iff]
    simp only [standing, List.mem_map, Bool.not_eq_true', List.any_eq_false, List.mem_filter,
      decide_eq_true_eq, forall_exists_index, and_imp, forall_apply_eq_imp_iff₂]
    push Not
    rfl
  simp only [toAccessibleMembership]
  split_ifs with h
  · exact iff_of_false not_false fun hfree => hfree.2 (hblocked.mpr h)
  · rw [Option.some.injEq]
    exact (and_iff_left fun hb => h (hblocked.mp hb)).symm

theorem exists_accessible {role : ServiceProviderUserRole} :
    (∃ m ∈ listAccessibleMemberships db userId, m.serviceProviderId = providerId ∧
      m.role = role) ↔ (standing db).LetsIn providerId userId role := by
  simp only [listAccessibleMemberships, findActiveMembershipsForUser, List.mem_filterMap,
    List.mem_filter, decide_eq_true_eq, toAccessibleMembership_eq_some, Standing.LetsIn,
    membership_eq_some]
  constructor
  · rintro ⟨_, ⟨⟨p, u, r, a⟩, ⟨hm, rfl, rfl, huser, hprovider⟩, rfl, hfree⟩, rfl, rfl⟩
    exact ⟨⟨hm, huser, hprovider⟩, hfree⟩
  · rintro ⟨⟨hm, huser, hprovider⟩, hfree⟩
    exact ⟨_, ⟨_, ⟨hm, rfl, rfl, huser, hprovider⟩, rfl, hfree⟩, rfl, rfl⟩

theorem mem_listAccessibleMemberships :
    (∃ m ∈ listAccessibleMemberships db userId, m.serviceProviderId = providerId ∧
      m.role = .ADMIN) ↔ (standing db).HasAccess providerId userId :=
  exists_accessible

end Reading

section Effects

variable {α : Type} {w : Statement α} {db db' : Db} {a : α}

/-- A statement that fails has no effect. -/
def Whole (w : Statement α) : Prop := ∀ db, (∃ e, w db = .error e db) ∨ ∃ a db', w db = .ok a db'

theorem effectOf_of_ok (h : w db = .ok a db') : effectOf w db = db' := by
  rw [effectOf, h]
  rfl

theorem effectOf_of_error {e : HttpException} (h : w db = .error e db) : effectOf w db = db := by
  rw [effectOf, h]
  rfl

theorem whole_onAccounts {v : Auth.Service α} : Whole (onAccounts v) := by
  intro db
  unfold onAccounts
  split
  · exact .inl ⟨_, rfl⟩
  · split
    · exact .inr ⟨_, _, rfl⟩
    · exact .inl ⟨_, rfl⟩

theorem onAccounts_ok {v : Auth.Service α} (h : onAccounts v db = .ok a db') :
    v db.accounts = .ok a db'.accounts ∧ db'.providers = db.providers ∧
      db'.memberships = db.memberships := by
  unfold onAccounts at h
  split at h
  · cases h
  · next b accounts hv =>
    split at h
    · cases h
      exact ⟨hv, rfl, rfl⟩
    · cases h

theorem perform_ok {x : Auth.DbWrite} {accounts accounts' : Auth.Db} {u : Unit}
    (h : Auth.perform x accounts = .ok u accounts') : x.apply accounts = .ok accounts' := by
  simp only [Auth.perform, Program.statement, Program.atomically] at h
  split at h
  · next hrun =>
    cases h
    exact Program.Code.run_perform.mp hrun
  · cases h

theorem map_perform_ok {x : Auth.DbWrite} {accounts accounts' : Auth.Db} {b : α}
    (h : ((fun _ => a) <$> Auth.perform x) accounts = .ok b accounts') :
    x.apply accounts = .ok accounts' := by
  simp only [Functor.map, EStateM.map] at h
  split at h
  · next hperform =>
    cases h
    exact perform_ok hperform
  · cases h

theorem standing_congr (hmemberships : db'.memberships = db.memberships)
    (hproviders : db'.providers = db.providers)
    (husers : ∀ u, (db'.accounts.users.findUnique u).any (·.isActive) =
      (db.accounts.users.findUnique u).any (·.isActive))
    (hgrants : (standing db').grants = (standing db).grants) : standing db' = standing db := by
  refine Standing.ext ?_ (funext husers) ?_ hgrants
  · simp only [standing, hmemberships]
  · simp only [standing, hproviders]

end Effects

section Statements

variable {db db' : Db}

theorem whole_createStandaloneUser {row : Auth.User} : Whole (createStandaloneUser row) := by
  intro db
  unfold createStandaloneUser
  split_ifs
  · exact .inl ⟨_, rfl⟩
  · exact whole_onAccounts db

theorem standing_createStandaloneUser {row a : Auth.User}
    (h : createStandaloneUser row db = .ok a db') :
    standing db' = (Move.newUser row.id row.isActive).apply (standing db) ∧
      (Move.newUser row.id row.isActive).Fits (standing db) := by
  unfold createStandaloneUser at h
  split_ifs at h
  obtain ⟨hwrite, hproviders, hmemberships⟩ := onAccounts_ok h
  obtain ⟨users, hcreate, haccounts⟩ := Auth.apply_user.mp (map_perform_ok hwrite)
  have hinsert := Table.apply_create.mp hcreate
  refine ⟨Standing.ext ?_ (funext fun u => ?_) ?_ ?_, fun providerId => ?_⟩
  · simp only [standing, hmemberships, Move.apply]
  · simp only [standing, Move.apply, ← haccounts, Table.findUnique_insert hinsert]
    by_cases hu : u = row.id
    · subst hu
      rw [Function.update_self, if_pos (show row.key = row.id from rfl)]
      rfl
    · rw [Function.update_of_ne hu, if_neg (show ¬ row.key = u from fun h => hu h.symm)]
  · simp only [standing, hproviders, Move.apply]
  · simp only [standing, ← haccounts, Move.apply]
  · -- a membership refers to a user who was there
    rw [standing, Option.map_eq_none_iff]
    cases hm : db.memberships.findUnique (providerId, row.id) with
    | none => rfl
    | some m =>
      obtain ⟨hmem, hkey⟩ := Table.findUnique_eq_some.mp hm
      obtain ⟨u, hu, huser⟩ := db.member_user m hmem
      have hid : u.key = row.id := huser.trans (Prod.mk.inj hkey).2
      exact absurd hid (Table.fresh_of_insert hinsert hu)

theorem whole_upsertMembership {providerId userId : Id} {role : ServiceProviderUserRole}
    {isActive : Bool} : Whole (upsertMembership providerId userId role isActive) := by
  intro db
  unfold upsertMembership
  dsimp only
  split_ifs
  · exact .inr ⟨_, _, rfl⟩
  · exact .inl ⟨_, rfl⟩

theorem findUnique_upsertRow {t : MembershipTable} {m : ServiceProviderUser} {k : Id × Id} :
    (upsertRow t m).findUnique k = if m.key = k then some m else t.findUnique k := by
  unfold upsertRow
  cases hinsert : t.insert m with
  | some t' =>
    rw [Option.getD_some]
    exact Table.findUnique_insert hinsert k
  | none =>
    rw [Option.getD_none, Table.findUnique_modify_eq]
    have htaken : ∃ b ∈ t, b.key = m.key := by
      by_contra hfree
      obtain ⟨t', ht'⟩ := Table.exists_insert.mpr fun b hb hkey => hfree ⟨b, hb, hkey⟩
      cases hinsert.symm.trans ht'
    split_ifs with hk
    · obtain ⟨b, hb, hbm⟩ := htaken
      have hfound : t.findUnique k = some b := Table.findUnique_eq_some.mpr ⟨hb, hbm.trans hk⟩
      rw [hfound, Option.map_some, if_pos hbm]
      obtain ⟨hprovider, huser⟩ := Prod.mk.inj hbm
      obtain ⟨p, u, r, x⟩ := m
      subst hprovider huser
      rfl
    · cases hfound : t.findUnique k with
      | none => rfl
      | some b =>
        obtain ⟨-, hbk⟩ := Table.findUnique_eq_some.mp hfound
        rw [Option.map_some, if_neg fun hbm => hk (hbm.symm.trans hbk)]

theorem upsertMembership_ok {providerId userId : Id} {role : ServiceProviderUserRole}
    {isActive : Bool} {a : ServiceProviderUser}
    (h : upsertMembership providerId userId role isActive db = .ok a db') :
    db'.accounts = db.accounts ∧ db'.providers = db.providers ∧
      db'.memberships = upsertRow db.memberships ⟨providerId, userId, role, isActive⟩ := by
  unfold upsertMembership at h
  dsimp only at h
  split_ifs at h
  cases h
  exact ⟨rfl, rfl, rfl⟩

theorem standing_upsertMembership {providerId userId : Id} {role : ServiceProviderUserRole}
    {isActive : Bool} {a : ServiceProviderUser}
    (h : upsertMembership providerId userId role isActive db = .ok a db') :
    standing db' = (Move.setMember providerId userId role isActive).apply (standing db) := by
  obtain ⟨haccounts, hproviders, hmemberships⟩ := upsertMembership_ok h
  refine Standing.ext (funext fun p => funext fun u => ?_) ?_ ?_ ?_
  · rw [membership_setMember]
    simp only [standing, hmemberships, findUnique_upsertRow, ServiceProviderUser.key,
      Prod.mk.injEq]
    by_cases hpair : p = providerId ∧ u = userId
    · obtain ⟨rfl, rfl⟩ := hpair
      simp
    · rw [if_neg hpair, if_neg fun h => hpair ⟨h.1.symm, h.2.symm⟩]
  · simp only [standing, haccounts, Move.apply]
  · simp only [standing, hproviders, Move.apply]
  · simp only [standing, haccounts, Move.apply]

theorem whole_createAccessGrant {actorUserId : Id} {grant : Auth.ServiceProviderAccessGrant} :
    Whole (createAccessGrant actorUserId grant) := by
  intro db
  unfold createAccessGrant
  split_ifs
  · exact whole_onAccounts db
  · exact .inl ⟨_, rfl⟩

theorem standing_createAccessGrant {actorUserId : Id} {grant a : Auth.ServiceProviderAccessGrant}
    (h : createAccessGrant actorUserId grant db = .ok a db') :
    standing db' = (Move.openGrant grant.toServiceProviderAccessGrant).apply (standing db) := by
  unfold createAccessGrant at h
  split_ifs at h
  obtain ⟨hwrite, hproviders, hmemberships⟩ := onAccounts_ok h
  obtain ⟨grants, hcreate, haccounts⟩ :=
    Auth.apply_serviceProviderAccessGrant.mp (map_perform_ok hwrite)
  have hrows := Table.insert_eq_some.mp (Table.apply_create.mp hcreate)
  refine Standing.ext ?_ ?_ ?_ ?_
  · simp only [standing, hmemberships, Move.apply]
  · simp only [standing, ← haccounts, Move.apply]
  · simp only [standing, hproviders, Move.apply]
  · simp only [standing, ← haccounts, hrows, List.map_append, Move.apply]
    rfl

theorem whole_updateAccessGrant {grantId : Id} {disabledByUserId : Option Id}
    {patch : Patch Auth.ServiceProviderAccessGrant.key} :
    Whole (updateAccessGrant grantId disabledByUserId patch) := by
  intro db
  unfold updateAccessGrant
  split_ifs
  · exact whole_onAccounts db
  · exact .inl ⟨_, rfl⟩

theorem updateAccessGrant_ok {grantId : Id} {disabledByUserId : Option Id}
    {patch : Patch Auth.ServiceProviderAccessGrant.key} {u : Unit}
    (h : updateAccessGrant grantId disabledByUserId patch db = .ok u db') :
    db'.providers = db.providers ∧ db'.memberships = db.memberships ∧
      db'.accounts.users = db.accounts.users ∧
        db'.accounts.serviceProviderAccessGrants =
          db.accounts.serviceProviderAccessGrants.modify grantId patch := by
  unfold updateAccessGrant at h
  split_ifs at h
  obtain ⟨hwrite, hproviders, hmemberships⟩ := onAccounts_ok h
  obtain ⟨grants, hupdate, haccounts⟩ :=
    Auth.apply_serviceProviderAccessGrant.mp (perform_ok hwrite)
  obtain ⟨-, rfl⟩ := Table.apply_update.mp hupdate
  exact ⟨hproviders, hmemberships, by rw [← haccounts], by rw [← haccounts]⟩

theorem standing_disable {grantId actorUserId : Id} {now : Date}
    {verificationMethod : Option String} {u : Unit}
    (h : updateAccessGrant grantId (some actorUserId)
      (grantDisabled now actorUserId verificationMethod) db = .ok u db') :
    standing db' = (Move.disable grantId).apply (standing db) := by
  obtain ⟨hproviders, hmemberships, husers, hgrants⟩ := updateAccessGrant_ok h
  refine Standing.ext ?_ ?_ ?_ ?_
  · simp only [standing, hmemberships, Move.apply]
  · simp only [standing, husers, Move.apply]
  · simp only [standing, hproviders, Move.apply]
  · simp only [standing, hgrants, Table.modify, Move.apply, List.map_map]
    refine List.map_congr_left fun g _ => ?_
    by_cases hid : g.id = grantId
    · simp [Move.disabled, grantDisabled, Auth.ServiceProviderAccessGrant.key, hid]
    · simp [Move.disabled, Auth.ServiceProviderAccessGrant.key, hid]

theorem standing_resend {grantId : Id} {disabledByUserId : Option Id} {now : Date} {u : Unit}
    (h : updateAccessGrant grantId disabledByUserId (invitedAgain now) db = .ok u db') :
    standing db' = standing db := by
  obtain ⟨hproviders, hmemberships, husers, hgrants⟩ := updateAccessGrant_ok h
  refine standing_congr hmemberships hproviders (fun u => by rw [husers]) ?_
  simp only [standing, hgrants, Table.modify, List.map_map]
  refine List.map_congr_left fun g _ => ?_
  by_cases hid : g.key = grantId
  · simp [invitedAgain, hid]
  · simp [hid]

theorem standing_createToken {userId : Id} {tokenHash : String} {expiresAt : Date}
    {purpose : Delivery.PasswordResetEmailPurpose} {u : Unit}
    (h : onAccounts (Auth.transaction
      (Auth.createPasswordResetToken userId tokenHash expiresAt purpose)) db = .ok u db') :
    standing db' = standing db := by
  obtain ⟨hrun, hproviders, hmemberships⟩ := onAccounts_ok h
  simp only [Auth.transaction, Program.atomically] at hrun
  split at hrun
  · next hcode =>
    cases hrun
    simp only [Auth.createPasswordResetToken, Program.Code.run_bind,
      Program.Code.run_perform] at hcode
    obtain ⟨_, db₁, hdelete, hcreate⟩ := hcode
    obtain rfl := Except.ok.inj hdelete
    obtain ⟨tokens, -, haccounts⟩ := Auth.apply_passwordResetToken.mp hcreate
    refine standing_congr hmemberships hproviders (fun u => by rw [← haccounts]) ?_
    simp only [standing, ← haccounts]
  · cases hrun

theorem whole_updatePortalView {providerId : Id} {data : ServiceProviderUpdateData} :
    Whole (updatePortalView providerId data) := by
  intro db
  unfold updatePortalView
  split_ifs
  · exact .inr ⟨_, _, rfl⟩
  · exact .inl ⟨_, rfl⟩

theorem updatePortalView_ok {providerId : Id} {data : ServiceProviderUpdateData} {u : Unit}
    (h : updatePortalView providerId data db = .ok u db') :
    (∃ p ∈ db.providers, p.key = providerId) ∧ db'.accounts = db.accounts ∧
      db'.memberships = db.memberships ∧
        db'.providers = db.providers.modify providerId data.patch := by
  unfold updatePortalView at h
  split_ifs at h with hfound
  cases h
  obtain ⟨p, hp⟩ := Option.isSome_iff_exists.mp hfound
  exact ⟨⟨p, Table.findUnique_eq_some.mp hp⟩, rfl, rfl, rfl⟩

theorem providerActive_updatePortalView {providerId p : Id} {data : ServiceProviderUpdateData}
    {u : Unit} (h : updatePortalView providerId data db = .ok u db') :
    (standing db').providerActive p =
      if p = providerId then data.isActive.getD ((standing db).providerActive p)
      else (standing db).providerActive p := by
  obtain ⟨⟨row, hrow, hkey⟩, -, -, hproviders⟩ := updatePortalView_ok h
  simp only [standing, hproviders, Table.findUnique_modify_eq]
  split_ifs with hp
  · subst hp
    rw [Table.findUnique_eq_some.mpr ⟨hrow, hkey⟩]
    simp [hkey, ServiceProviderUpdateData.patch]
  · cases hfound : db.providers.findUnique p with
    | none => rfl
    | some q =>
      obtain ⟨-, hq⟩ := Table.findUnique_eq_some.mp hfound
      rw [Option.map_some, if_neg fun h => hp (hq.symm.trans h)]

theorem standing_updatePortalView {providerId : Id} {data : ServiceProviderUpdateData} {u : Unit}
    (h : updatePortalView providerId data db = .ok u db') :
    standing db' = (data.isActive.elim (standing db)
      fun isActive => (Move.setProvider providerId isActive).apply (standing db)) := by
  obtain ⟨-, haccounts, hmemberships, -⟩ := updatePortalView_ok h
  have hactive := fun p => @providerActive_updatePortalView db db' providerId p data u h
  cases hset : data.isActive with
  | none =>
    refine Standing.ext ?_ ?_ (funext fun p => ?_) ?_
    · simp only [standing, hmemberships, Option.elim]
    · simp only [standing, haccounts, Option.elim]
    · rw [hactive p, hset]
      simp
    · simp only [standing, haccounts, Option.elim]
  | some isActive =>
    refine Standing.ext ?_ ?_ (funext fun p => ?_) ?_
    · simp only [standing, hmemberships, Option.elim, Move.apply]
    · simp only [standing, haccounts, Option.elim, Move.apply]
    · rw [hactive p, hset]
      by_cases hp : p = providerId
      · subst hp
        simp [Move.apply]
      · simp [Move.apply, hp]
    · simp only [standing, haccounts, Option.elim, Move.apply]

end Statements

section Redemption

variable {db db' : Db} {env : Env} {token newPassword : String}

/-- A redemption that returns has found a token; if that is of a provider's invitation, the
pending grants of its user are accepted. -/
theorem standing_resetPassword
    (h : onAccounts (Auth.resetPassword env token newPassword) db = .ok () db') :
    ∃ t u, Auth.findTokenWithUser (env.hashToken (trimString token)) db.accounts = some (t, u) ∧
      standing db' = if t.purpose = .PROVIDER_INVITE then
        (Move.accept t.userId).apply (standing db) else standing db := by
  obtain ⟨hreset, hproviders, hmemberships⟩ := onAccounts_ok h
  obtain ⟨hfalse, -⟩ | ⟨t, u, hfind, -, -, -, haccounts⟩ :=
    Auth.run_reset_ok (Auth.resetPassword_eq_ok.mp hreset)
  · cases hfalse
  have husers : ∀ v, (db'.accounts.users.findUnique v).any (·.isActive) =
      (db.accounts.users.findUnique v).any (·.isActive) := by
    intro v
    rw [← haccounts, Auth.redeemedWith, Table.findUnique_modify_eq]
    cases db.accounts.users.findUnique v with
    | none => rfl
    | some x =>
      simp only [Option.map_some, Option.any_some]
      split_ifs <;> rfl
  have hgrants : db'.accounts.serviceProviderAccessGrants =
      Auth.activatedProviders env.now t db.accounts := by
    rw [← haccounts]
    rfl
  refine ⟨t, u, hfind, ?_⟩
  split_ifs with hpurpose
  · refine Standing.ext ?_ (funext husers) ?_ ?_
    · simp only [standing, hmemberships, Move.apply]
    · simp only [standing, hproviders, Move.apply]
    · simp only [standing, hgrants, Auth.activatedProviders, if_pos hpurpose, Table.modifyWhere,
        Move.apply, List.map_map]
      refine List.map_congr_left fun g _ => ?_
      by_cases haccepts : g.userId = some t.userId ∧ g.status = .PENDING
      · simp [Move.accepted, haccepts, Auth.providerGrantActivated]
      · simp [Move.accepted, haccepts]
  · refine standing_congr hmemberships hproviders husers ?_
    simp only [standing, hgrants, Auth.activatedProviders, if_neg hpurpose]

end Redemption

section Steps

variable {call : ProviderCall} {effect : Db → Db} {db : Db} {m : Move}

theorem Performs.standing_eq (h : Performs call effect db m) :
    standing (effect db) = m.apply (standing db) ∧ m.Fits (standing db) := by
  cases h with
  | newUser h =>
    rw [effectOf_of_ok h]
    exact standing_createStandaloneUser h
  | setMember h =>
    rw [effectOf_of_ok h]
    exact ⟨standing_upsertMembership h, trivial⟩
  | openGrant hpending h =>
    rw [effectOf_of_ok h]
    exact ⟨standing_createAccessGrant h, hpending⟩
  | disable h =>
    rw [effectOf_of_ok h]
    exact ⟨standing_disable h, trivial⟩
  | accept htoken hpurpose h =>
    rw [effectOf_of_ok h]
    obtain ⟨t, u, hfind, hstanding⟩ := standing_resetPassword h
    obtain ⟨rfl, rfl⟩ := Prod.mk.inj (Option.some.inj (htoken.symm.trans hfind))
    rw [hstanding, if_pos hpurpose]
    exact ⟨rfl, trivial⟩
  | setProvider hactive h =>
    rw [effectOf_of_ok h, standing_updatePortalView h, hactive]
    exact ⟨rfl, trivial⟩

/-- The step changes no standing, or makes a move. -/
def Moves (call : ProviderCall) (effect : Db → Db) : Prop :=
  ∀ db, standing (effect db) = standing db ∨ ∃ m, Performs call effect db m

theorem moves_id : Moves call id := fun _ => .inl rfl

theorem moves_of_whole {α : Type} {w : Statement α} (hwhole : Whole w)
    (h : ∀ db a db', w db = .ok a db' →
      standing db' = standing db ∨ ∃ m, Performs call (effectOf w) db m) :
    Moves call (effectOf w) := by
  intro db
  obtain ⟨e, herror⟩ | ⟨a, db', hok⟩ := hwhole db
  · exact .inl (congrArg standing (effectOf_of_error herror))
  · rw [effectOf_of_ok hok]
    exact h db a db' hok

theorem moves_createStandaloneUser {row : Auth.User} :
    Moves call (effectOf (createStandaloneUser row)) :=
  moves_of_whole whole_createStandaloneUser fun _ _ _ h => .inr ⟨_, .newUser h⟩

theorem moves_upsertMembership {providerId userId : Id} {role : ServiceProviderUserRole}
    {isActive : Bool} : Moves call (effectOf (upsertMembership providerId userId role isActive)) :=
  moves_of_whole whole_upsertMembership fun _ _ _ h => .inr ⟨_, .setMember h⟩

def KeepsStanding (effect : Db → Db) : Prop := ∀ db, standing (effect db) = standing db

theorem keepsStanding_of_whole {α : Type} {w : Statement α} (hwhole : Whole w)
    (h : ∀ db a db', w db = .ok a db' → standing db' = standing db) :
    KeepsStanding (effectOf w) := by
  intro db
  obtain ⟨e, herror⟩ | ⟨a, db', hok⟩ := hwhole db
  · exact congrArg standing (effectOf_of_error herror)
  · rw [effectOf_of_ok hok]
    exact h db a db' hok

theorem moves_of_keepsStanding (h : KeepsStanding effect) : Moves call effect := fun db => .inl (h db)

theorem keepsStanding_requestPasswordReset {env : Env} {email : String} {issuedByUserId : Id} :
    (requestPasswordReset env email issuedByUserId).Always KeepsStanding := by
  have hid : KeepsStanding id := fun _ => rfl
  refine always_bind (always_query hid _) fun user => ?_
  cases user with
  | none => trivial
  | some user =>
    dsimp only
    split_ifs
    · refine always_bind (always_query hid _) fun inviter => ?_
      refine always_bind (always_atomic ?_) fun _ => trivial
      exact keepsStanding_of_whole whole_onAccounts fun _ _ _ h => standing_createToken h
    · trivial

theorem always_requestPasswordReset {env : Env} {email : String} {issuedByUserId : Id} :
    (requestPasswordReset env email issuedByUserId).Always (Moves call) :=
  keepsStanding_requestPasswordReset.mono fun _ => moves_of_keepsStanding

theorem always_discard {α : Type} {c : Call α} (h : c.Always (Moves call)) :
    (discard c).Always (Moves call) :=
  always_bind h fun _ => trivial

theorem always_createPendingInvite {env : Env} {input : GrantInput} {email : String} :
    (createPendingInvite env input email).Always (Moves call) := by
  refine always_bind (always_query moves_id _) fun provider => ?_
  refine always_bind (always_query moves_id _) fun openGrantCount => ?_
  refine always_bind trivial fun _ => always_bind (always_query moves_id _) fun found => ?_
  refine always_bind ?_ fun user => ?_
  · cases found with
    | none => exact always_atomic moves_createStandaloneUser
    | some user => exact always_bind trivial fun _ => always_bind trivial fun _ => trivial
  · refine always_bind (always_atomic moves_upsertMembership) fun _ => ?_
    refine always_bind (always_atomic ?_) fun grant => ?_
    · exact moves_of_whole whole_createAccessGrant fun _ _ _ h => .inr ⟨_, .openGrant rfl h⟩
    · exact always_bind always_requestPasswordReset fun _ => trivial

theorem always_resendInvite {env : Env} {input : GrantInput} {grantId : Id} :
    (resendInvite env input grantId).Always (Moves call) := by
  refine always_bind (always_query moves_id _) fun provider => ?_
  refine always_bind (always_query moves_id _) fun grant => always_bind trivial fun _ => ?_
  refine always_bind trivial fun inviteEmail => always_bind (always_atomic ?_) fun _ => ?_
  · exact moves_of_whole whole_updateAccessGrant fun _ _ _ h => .inl (standing_resend h)
  · exact always_requestPasswordReset

theorem always_disableGrant {env : Env} {input : GrantInput} {grantId : Id}
    {verificationMethod : Option String} :
    (disableGrant env input grantId verificationMethod).Always (Moves call) := by
  refine always_bind (always_query moves_id _) fun provider => ?_
  refine always_bind (always_query moves_id _) fun grant => always_bind trivial fun _ => ?_
  refine always_atomic ?_
  exact moves_of_whole whole_updateAccessGrant fun _ _ _ h => .inr ⟨_, .disable h⟩

theorem always_resetPassword {env : Env} {token newPassword : String} :
    (resetPassword env token newPassword).Always
      (Moves (.grant (.redeem env token newPassword))) := by
  refine always_atomic (moves_of_whole whole_onAccounts fun db _ db' h => ?_)
  obtain ⟨t, u, hfind, hstanding⟩ := standing_resetPassword h
  by_cases hpurpose : t.purpose = .PROVIDER_INVITE
  · exact .inr ⟨_, .accept hfind hpurpose h⟩
  · exact .inl (hstanding.trans (if_neg hpurpose))

theorem always_requireProviderAdmin {user : Option AuthenticatedUser} :
    (requireProviderAdmin user).Always (Moves call) := by
  refine always_bind (always_bind trivial fun userId => always_query moves_id _) fun _ => ?_
  exact always_bind trivial fun _ => trivial

theorem always_createStaff {env : Env} {user : Option AuthenticatedUser}
    {dto : CreateProviderStaffDto} : (createStaff env user dto).Always (Moves call) := by
  refine always_bind always_requireProviderAdmin fun membership => ?_
  refine always_bind (always_query moves_id _) fun existing => always_bind trivial fun _ => ?_
  refine always_bind trivial fun row => always_bind (always_atomic moves_createStandaloneUser)
    fun createdUser => always_atomic moves_upsertMembership

theorem always_updateStaff {user : Option AuthenticatedUser} {staffUserId : Id}
    {dto : UpdateProviderStaffDto} : (updateStaff user staffUserId dto).Always (Moves call) := by
  refine always_bind always_requireProviderAdmin fun membership => always_bind trivial fun _ => ?_
  exact always_bind (always_query moves_id _) fun _ => always_atomic moves_upsertMembership

theorem always_updateProfile {user : Option AuthenticatedUser} {dto : UpdateServiceProviderDto} :
    (updateProfile user dto).Always (Moves (.staff (.updateProfile user dto))) := by
  refine always_bind always_requireProviderAdmin fun membership => always_bind trivial fun data => ?_
  refine always_atomic (moves_of_whole whole_updatePortalView fun db _ db' h => ?_)
  have hstanding := standing_updatePortalView h
  cases hactive : data.isActive with
  | none =>
    rw [hactive] at hstanding
    exact .inl hstanding
  | some isActive => exact .inr ⟨_, .setProvider hactive h⟩

theorem always_callScript (call : ProviderCall) : (callScript call).Always (Moves call) := by
  cases call with
  | grant call =>
    cases call with
    | createPendingInvite env input email => exact always_discard always_createPendingInvite
    | resendInvite env input grantId => exact always_resendInvite
    | disableGrant env input grantId verificationMethod => exact always_disableGrant
    | redeem env token newPassword => exact always_resetPassword
  | staff call =>
    cases call with
    | createStaff env user dto => exact always_discard always_createStaff
    | updateStaff user staffUserId dto => exact always_discard always_updateStaff
    | updateProfile user dto => exact always_updateProfile

end Steps

end Towerdesk.Providers
