import Towerdesk.Lib.Turns
import Towerdesk.Providers.Recipients

/-!
# A provider keeps an administrator

Administrators add and change the members of their provider, at once and each stopped wherever it
may be. No call changes its caller's own membership, so a provider keeps an administrator as long
as whoever ends an administration is an administrator still. The calls see to that with a
membership read two steps before.
-/

namespace Towerdesk.Providers

open Interleaving (AtStep)
open Script (AllUphold upholds_bind upholds_done upholds_done_bind upholds_throwIf_bind
  upholds_query_bind upholds_atomic_bind upholds_atomic)

/-- An active membership of an active user, in the role of an administrator. -/
def HasAdmin (db : Db) (providerId : Id) : Prop :=
  ∃ m ∈ db.memberships, m.serviceProviderId = providerId ∧ m.role = .ADMIN ∧ m.isActive = true ∧
    (db.accounts.users.findUnique m.userId).any (·.isActive) = true

instance (db : Db) (providerId : Id) : Decidable (HasAdmin db providerId) :=
  inferInstanceAs (Decidable (∃ m ∈ db.memberships, _))

def Standing.Administers (s : Standing) (providerId userId : Id) : Prop :=
  s.membership providerId userId = some (.ADMIN, true) ∧ s.userActive userId = true

theorem hasAdmin_iff {db : Db} {providerId : Id} :
    HasAdmin db providerId ↔ ∃ userId, (standing db).Administers providerId userId := by
  simp only [Standing.Administers, membership_eq_some]
  constructor
  · rintro ⟨⟨p, u, r, a⟩, hm, rfl, rfl, rfl, huser⟩
    exact ⟨u, hm, huser⟩
  · rintro ⟨u, hm, huser⟩
    exact ⟨_, hm, rfl, rfl, rfl, huser⟩

def callerOf : StaffCall → Option Id
  | .createStaff _ user _ => user.map (·.sub)
  | .updateStaff user _ _ => user.map (·.sub)
  | .updateProfile user _ => user.map (·.sub)

section Steps

variable {call : StaffCall} {db db' : Db} {effect : Db → Db} {m : Move} {providerId userId : Id}

/-- No membership is deleted. -/
def KeepsMembers (db db' : Db) : Prop := ∀ providerId userId,
  (standing db).membership providerId userId ≠ none →
    (standing db').membership providerId userId ≠ none

/-- A step leaves every standing as it is, or makes a move that sets no membership of the
caller's. -/
def SparesCaller (call : StaffCall) (db : Db) (effect : Db → Db) : Prop :=
  standing (effect db) = standing db ∨ ∃ m, Performs (.staff call) effect db m ∧
    ∀ providerId userId role isActive, m = .setMember providerId userId role isActive →
      callerOf call ≠ some userId

theorem keepsMembers_refl (db : Db) : KeepsMembers db db := fun _ _ h => h

theorem keepsMembers_trans {a b c : Db} (hab : KeepsMembers a b) (hbc : KeepsMembers b c) :
    KeepsMembers a c := fun p u h => hbc p u (hab p u h)

theorem keepsMembers_of_sparesCaller (h : SparesCaller call db effect) :
    KeepsMembers db (effect db) := by
  intro p u hmember
  obtain hsame | ⟨m, hm, -⟩ := h
  · rwa [hsame]
  rw [hm.standing_eq.1]
  cases m with
  | setMember providerId userId role isActive =>
    rw [membership_setMember]
    split_ifs
    · exact Option.some_ne_none _
    · exact hmember
  | newUser _ _ => exact hmember
  | openGrant _ => exact hmember
  | disable _ => exact hmember
  | accept _ => exact hmember
  | setProvider _ _ => exact hmember

theorem sparesCaller_id : ∀ db, SparesCaller call db id := fun _ => .inl rfl

theorem sparesCaller_createStandaloneUser {row : Auth.User} :
    SparesCaller call db (effectOf (createStandaloneUser row)) := by
  have hwhole : Whole (createStandaloneUser row) := whole_createStandaloneUser
  obtain ⟨e, herror⟩ | ⟨a, db', hok⟩ := hwhole db
  · exact .inl (congrArg standing (effectOf_of_error herror))
  · exact .inr ⟨_, .newUser hok, fun _ _ _ _ h => by cases h⟩

theorem sparesCaller_upsertMembership {role : ServiceProviderUserRole} {isActive : Bool}
    (hne : callerOf call ≠ some userId) :
    SparesCaller call db (effectOf (upsertMembership providerId userId role isActive)) := by
  have hwhole : Whole (upsertMembership providerId userId role isActive) := whole_upsertMembership
  obtain ⟨e, herror⟩ | ⟨a, db', hok⟩ := hwhole db
  · exact .inl (congrArg standing (effectOf_of_error herror))
  · refine .inr ⟨_, .setMember hok, fun p u r x h => ?_⟩
    cases h
    exact hne

theorem createStandaloneUser_ok {row a : Auth.User} (h : createStandaloneUser row db = .ok a db') :
    a = row := by
  unfold createStandaloneUser at h
  split_ifs at h
  obtain ⟨hwrite, -⟩ := onAccounts_ok h
  simp only [Functor.map, EStateM.map] at hwrite
  split at hwrite
  · cases hwrite
    rfl
  · cases hwrite

theorem getSingleAccessibleMembership_ok {a : ServiceProviderUser}
    (h : getSingleAccessibleMembership userId db = .ok a) : a ∈ db.memberships ∧ a.userId = userId := by
  unfold getSingleAccessibleMembership at h
  split at h
  · cases h
  · next found hfound =>
    cases h
    have hmem : a ∈ listAccessibleMemberships db userId := by
      rw [hfound]
      exact List.mem_singleton_self a
    obtain ⟨found, hactive, haccess⟩ := List.mem_filterMap.mp hmem
    obtain ⟨rfl, -⟩ := toAccessibleMembership_eq_some.mp haccess
    obtain ⟨hrow, hcond⟩ := List.mem_filter.mp hactive
    exact ⟨hrow, (of_decide_eq_true hcond).1⟩
  · cases h

end Steps

section Calls

variable {call : StaffCall} {user : Option AuthenticatedUser} {db : Db}

/-- What is known of the membership that lets the caller in, also later. -/
def LetCallerIn (call : StaffCall) (m : ServiceProviderUser) (db : Db) : Prop :=
  callerOf call = some m.userId ∧
    (standing db).membership m.serviceProviderId m.userId ≠ none

theorem upholds_requireProviderAdmin (huser : callerOf call = user.map (·.sub)) :
    (requireProviderAdmin user).Upholds KeepsMembers (SparesCaller call) (LetCallerIn call) db := by
  refine upholds_bind (upholds_done_bind fun userId hcaller => ?_) fun m db hm =>
    upholds_throwIf_bind fun _ => hm
  refine fun db' _ => ⟨sparesCaller_id db', upholds_done fun m hm => ?_⟩
  obtain ⟨hmem, rfl⟩ := getSingleAccessibleMembership_ok hm
  refine ⟨huser.trans (truthy_eq_some.mp (Outcome.orThrow_eq_ok.mp hcaller)).1, ?_⟩
  exact ne_of_eq_of_ne (membership_eq_some.mpr hmem) (Option.some_ne_none _)

theorem upholds_createStaff {env : Auth.Env} {dto : CreateProviderStaffDto}
    (huser : callerOf call = user.map (·.sub)) :
    (createStaff env user dto).Upholds KeepsMembers (SparesCaller call) (fun _ _ => True) db := by
  refine upholds_bind (upholds_requireProviderAdmin huser) fun m db hm => ?_
  refine upholds_query_bind sparesCaller_id fun db₁ existing hdb₁ _ => ?_
  refine upholds_throwIf_bind fun _ => upholds_done_bind fun row _ => ?_
  refine upholds_atomic_bind (fun db' _ => sparesCaller_createStandaloneUser)
    fun db₂ db₃ createdUser hdb₂ hcreate => upholds_atomic fun _ _ => ?_
  -- the caller is a member since before the user was created
  have hmember := hdb₂ _ _ (hdb₁ _ _ hm.2)
  have hfresh := (standing_createStandaloneUser hcreate).2 m.serviceProviderId
  obtain rfl := createStandaloneUser_ok hcreate
  refine sparesCaller_upsertMembership fun hcaller => hmember ?_
  rwa [Option.some.inj (hm.1.symm.trans hcaller)]

theorem upholds_updateStaff {staffUserId : Id} {dto : UpdateProviderStaffDto}
    (huser : callerOf call = user.map (·.sub)) : (updateStaff user staffUserId dto).Upholds
      KeepsMembers (SparesCaller call) (fun _ _ => True) db := by
  refine upholds_bind (upholds_requireProviderAdmin huser) fun m db hm => ?_
  refine upholds_throwIf_bind fun hself => upholds_query_bind sparesCaller_id fun _ _ _ _ => ?_
  refine upholds_atomic fun _ _ => sparesCaller_upsertMembership fun hcaller => hself ?_
  exact Option.some.inj (hm.1.symm.trans hcaller)

theorem upholds_updateProfile {dto : UpdateServiceProviderDto} :
    (updateProfile user dto).Upholds KeepsMembers (SparesCaller (.updateProfile user dto))
      (fun _ _ => True) db := by
  refine upholds_bind (upholds_requireProviderAdmin rfl) fun m db _ => ?_
  refine upholds_done_bind fun data _ => upholds_atomic fun db' _ => ?_
  have hwhole : Whole (updatePortalView m.serviceProviderId data) := whole_updatePortalView
  obtain ⟨e, herror⟩ | ⟨a, db'', hok⟩ := hwhole db'
  · exact .inl (congrArg standing (effectOf_of_error herror))
  · have hstanding := standing_updatePortalView hok
    cases hactive : data.isActive with
    | none =>
      rw [hactive] at hstanding
      exact .inl ((congrArg standing (effectOf_of_ok hok)).trans hstanding)
    | some isActive => exact .inr ⟨_, .setProvider hactive hok, fun _ _ _ _ h => by cases h⟩

abbrev staffCalls {π : Type} (calls : π → StaffCall) (p : π) : ProviderCall := .staff (calls p)

theorem upholds_callScript (call : StaffCall) : (callScript (.staff call)).Upholds KeepsMembers
    (SparesCaller call) (fun _ _ => True) db := by
  cases call with
  | createStaff env user dto =>
    exact upholds_bind (upholds_createStaff rfl) fun _ _ _ => trivial
  | updateStaff user staffUserId dto =>
    exact upholds_bind (upholds_updateStaff rfl) fun _ _ _ => trivial
  | updateProfile user dto => exact upholds_updateProfile

theorem allUphold_atStart {π : Type} {calls : π → StaffCall} :
    AllUphold KeepsMembers (fun p => SparesCaller (calls p)) (atStart (staffCalls calls) db) :=
  fun p => upholds_callScript (calls p)

end Calls

section Runs

variable {π : Type}

/-- Whoever ends an administration is an administrator of the provider at that moment. -/
def CallerStands (calls : π → StaffCall) (p : π) (_ : Unit) (c : Call Unit) (db : Db) : Prop :=
  ∀ effect next providerId userId role isActive, c = .step effect next →
    Performs (.staff (calls p)) effect db (.setMember providerId userId role isActive) →
      (standing db).Administers providerId userId → ¬ (role = .ADMIN ∧ isActive = true) →
        ∃ caller, callerOf (calls p) = some caller ∧ (standing db).Administers providerId caller

variable {calls : π → StaffCall} {providerId : Id}

theorem administers_setMember_of_ne {st : Standing} {p userId u : Id}
    {role : ServiceProviderUserRole} {isActive : Bool} (hne : u ≠ userId)
    (h : st.Administers providerId u) :
    ((Move.setMember p userId role isActive).apply st).Administers providerId u := by
  refine ⟨?_, h.2⟩
  rw [membership_setMember, if_neg fun hpair => hne hpair.2]
  exact h.1

theorem exists_administers_apply {p : π} {effect : Db → Db} {next : Db → Call Unit} {db : Db}
    {m : Move} {userId : Id} (hstands : CallerStands calls p () (.step effect next) db)
    (hm : Performs (.staff (calls p)) effect db m)
    (hspares : ∀ providerId userId role isActive,
      m = .setMember providerId userId role isActive → callerOf (calls p) ≠ some userId)
    (hadmin : (standing db).Administers providerId userId) :
    ∃ u, (m.apply (standing db)).Administers providerId u := by
  cases m with
  | newUser newId isActive =>
    have hfits := hm.standing_eq.2 providerId
    have hne : userId ≠ newId := by
      rintro rfl
      cases hfits.symm.trans hadmin.1
    exact ⟨userId, hadmin.1, (Function.update_of_ne hne _ _).trans hadmin.2⟩
  | setMember p' target role isActive =>
    by_cases hpair : providerId = p' ∧ userId = target
    · obtain ⟨rfl, rfl⟩ := hpair
      by_cases hrole : role = .ADMIN ∧ isActive = true
      · obtain ⟨rfl, rfl⟩ := hrole
        exact ⟨userId, membership_setMember.trans (if_pos ⟨rfl, rfl⟩), hadmin.2⟩
      · obtain ⟨caller, hcaller, hcallerAdmin⟩ := hstands effect next _ _ _ _ rfl hm hadmin hrole
        have hne : caller ≠ userId := fun h => hspares _ _ _ _ rfl (h ▸ hcaller)
        exact ⟨caller, administers_setMember_of_ne hne hcallerAdmin⟩
    · exact ⟨userId, membership_setMember.trans ((if_neg hpair).trans hadmin.1), hadmin.2⟩
  | openGrant _ => exact ⟨userId, hadmin⟩
  | disable _ => exact ⟨userId, hadmin⟩
  | accept _ => exact ⟨userId, hadmin⟩
  | setProvider _ _ => exact ⟨userId, hadmin⟩

variable [DecidableEq π] {s : State π} {l : π × Unit}

theorem hasAdmin_next (hcalls : AllUphold KeepsMembers (fun p => SparesCaller (calls p)) s)
    (hstands : AtStep (CallerStands calls) l s) (h : HasAdmin s.shared providerId) :
    HasAdmin (Interleaving.next turns l s).shared providerId := by
  rw [hasAdmin_iff] at h ⊢
  obtain ⟨userId, hadmin⟩ := h
  obtain hsame | ⟨effect, next, hstep, hG, hshared⟩ := hcalls.turn (l := l) keepsMembers_refl
  · rw [hsame]
    exact ⟨userId, hadmin⟩
  rw [hshared]
  obtain hsame | ⟨m, hm, hspares⟩ := hG
  · rw [hsame]
    exact ⟨userId, hadmin⟩
  · rw [hm.standing_eq.1]
    change CallerStands calls l.1 () (s.locals l.1) s.shared at hstands
    rw [hstep] at hstands
    exact exists_administers_apply hstands hm hspares hadmin

/-- A provider with an administrator has one in every state of a run in which whoever ends an
administration is an administrator still. -/
theorem provider_keeps_admin (calls : π → StaffCall) (db : Db) (ls : List (π × Unit))
    {providerId : Id} (hstart : HasAdmin db providerId)
    (hstands : Run.Along (Interleaving.next turns) (AtStep (CallerStands calls))
      (atStart (staffCalls calls) db) ls) :
    ∀ ms, ms <+: ls → HasAdmin (runFrom (staffCalls calls) db ms).shared providerId := by
  rintro ms ⟨ns, rfl⟩
  have hinv := Run.exec_inv_along
    (I := fun s : State π => AllUphold KeepsMembers (fun p => SparesCaller (calls p)) s ∧
      HasAdmin s.shared providerId)
    (fun l s hs hl => ⟨hs.1.next keepsMembers_refl keepsMembers_trans
      (fun _ _ _ => keepsMembers_of_sparesCaller), hasAdmin_next hs.1 hl hs.2⟩)
    ⟨allUphold_atStart, hstart⟩ (Run.along_append.mp hstands).1
  exact hinv.2

end Runs

section Scene

def admin (id : Id) : Auth.User := { orgManager with id, email := id ++ "@example.com", orgId := none }

/-- A provider with two administrators. -/
def twoAdmins : Db where
  accounts := { providerScene.accounts with users := ⟨[admin "ann", admin "bob"], by decide⟩ }
  providers := providerScene.providers
  memberships := ⟨[⟨"provider", "ann", .ADMIN, true⟩, ⟨"provider", "bob", .ADMIN, true⟩], by decide⟩
  member_user := by decide

def dismiss (callerId staffUserId : Id) : StaffCall :=
  .updateStaff (some ⟨callerId, none⟩) staffUserId ⟨none, some false⟩

def eachOther (second : Bool) : StaffCall :=
  if second then dismiss "bob" "ann" else dismiss "ann" "bob"

/-- Both read their memberships before either writes. -/
def bothRead : List (Bool × Unit) :=
  List.replicate 2 (false, ()) ++ List.replicate 2 (true, ()) ++ [(false, ()), (true, ())]

theorem callerStands_of_only {π : Type} {calls : π → StaffCall} {p : π} {c : Call Unit} {db : Db}
    (providerId caller : Id) (honly : ∀ m ∈ db.memberships, m.serviceProviderId = providerId)
    (hcaller : callerOf (calls p) = some caller) (hmember :
      (⟨providerId, caller, .ADMIN, true⟩ : ServiceProviderUser) ∈ db.memberships)
    (hactive : (standing db).userActive caller = true) : CallerStands calls p () c db := by
  rintro effect next p' userId role isActive - - hadmin -
  obtain rfl : p' = providerId := honly _ (membership_eq_some.mp hadmin.1)
  exact ⟨caller, hcaller, membership_eq_some.mpr hmember, hactive⟩

theorem one_dismissal_keeps_admin :
    HasAdmin (runFrom (staffCalls fun _ : Unit => dismiss "ann" "bob") twoAdmins
      (List.replicate 3 ((), ()))).shared "provider" := by
  refine provider_keeps_admin (fun _ : Unit => dismiss "ann" "bob") twoAdmins
    (List.replicate 3 ((), ())) (by decide +kernel) ⟨?_, ?_, ?_, trivial⟩ _ List.prefix_rfl
  · exact callerStands_of_only "provider" "ann" (by decide +kernel) rfl (by decide +kernel)
      (by decide +kernel)
  · exact callerStands_of_only "provider" "ann" (by decide +kernel) rfl (by decide +kernel)
      (by decide +kernel)
  · exact callerStands_of_only "provider" "ann" (by decide +kernel) rfl (by decide +kernel)
      (by decide +kernel)

/-- Two administrators who dismiss each other at once leave the provider without one. -/
theorem admins_dismiss_each_other : ¬ ∀ (π : Type) (_ : DecidableEq π) (calls : π → StaffCall)
    (db : Db) (ls : List (π × Unit)) (providerId : Id), HasAdmin db providerId →
      HasAdmin (runFrom (staffCalls calls) db ls).shared providerId := by
  intro h
  have hkept := h Bool inferInstance eachOther twoAdmins bothRead "provider" (by decide +kernel)
  exact absurd hkept (by decide +kernel)

end Scene

end Towerdesk.Providers
