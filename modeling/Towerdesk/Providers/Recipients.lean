import Towerdesk.Lib.Interleaving
import Towerdesk.Providers.Moves

/-!
# Who hears of a provider's requests

Any number of calls, each stopped wherever it may be: whatever their order, a turn leaves the
standing of users as it is or makes one move of its call. The notifications of a provider go to
its administrators by their memberships alone, access goes by the grants as well. The two agree
all along a run of calls exactly when every move of it leaves no administrator behind a grant
that is not active.
-/

namespace Towerdesk.Providers

open Interleaving (Config Machine)
open Script (advance always_step)

variable {π : Type}

abbrev State (π : Type) := Config π (Call Unit) Db

def atStart (calls : π → ProviderCall) (db : Db) : State π :=
  Script.start (fun p => callScript (calls p)) db

abbrev turns : Machine π Unit (Call Unit) Db := Script.machine

/-- Every move that the next step of the call would make is as `P` has it. -/
def Allowed (calls : π → ProviderCall) (P : Standing → Move → Prop) (p : π) (_ : Unit)
    (c : Call Unit) (db : Db) : Prop :=
  ∀ effect next m, c = .step effect next → Performs (calls p) effect db m → P (standing db) m

/-- What is left of each call is the rest of one of its kind. -/
def Underway (calls : π → ProviderCall) (s : State π) : Prop :=
  ∀ p, (s.locals p).Always (Moves (calls p))

theorem underway_atStart {calls : π → ProviderCall} {db : Db} :
    Underway calls (atStart calls db) := fun p => always_callScript (calls p)

variable [DecidableEq π] {calls : π → ProviderCall} {s : State π} {l : π × Unit}

abbrev runFrom (calls : π → ProviderCall) (db : Db) (ls : List (π × Unit)) : State π :=
  Run.exec (Interleaving.next turns) (atStart calls db) ls

theorem underway_next (h : Underway calls s) : Underway calls (Interleaving.next turns l s) := by
  intro p
  by_cases hp : p = l.1
  · subst hp
    rw [Interleaving.next_self]
    have hcall := h l.1
    change (advance (s.locals l.1) s.shared).1.Always (Moves (calls l.1))
    cases hl : s.locals l.1 with
    | done r => trivial
    | step effect next =>
      rw [hl] at hcall
      exact (always_step.mp hcall).2 s.shared
  · rw [Interleaving.next_other l.2 s hp]
    exact h p

theorem standing_next {effect : Db → Db} {next : Db → Call Unit} {m : Move}
    (hstep : s.locals l.1 = .step effect next) (hm : Performs (calls l.1) effect s.shared m) :
    standing (Interleaving.next turns l s).shared = m.apply (standing s.shared) ∧
      m.Fits (standing s.shared) := by
  change standing (advance (s.locals l.1) s.shared).2 = _ ∧ _
  rw [hstep]
  exact hm.standing_eq

theorem turn_cases (h : Underway calls s) :
    standing (Interleaving.next turns l s).shared = standing s.shared ∨
      ∃ effect next m, s.locals l.1 = .step effect next ∧
        Performs (calls l.1) effect s.shared m := by
  have hcall := h l.1
  change standing (advance (s.locals l.1) s.shared).2 = _ ∨ _
  cases hl : s.locals l.1 with
  | done r => exact .inl rfl
  | step effect next =>
    rw [hl] at hcall
    obtain hsame | ⟨m, hm⟩ := (always_step.mp hcall).1 s.shared
    · exact .inl hsame
    · exact .inr ⟨effect, next, m, rfl, hm⟩

end Towerdesk.Providers

namespace Towerdesk.Providers

open Interleaving (AtStep)

/-- The user is let in as an administrator. -/
def LetIn (db : Db) (providerId userId : Id) : Prop :=
  ∃ m ∈ listAccessibleMemberships db userId, m.serviceProviderId = providerId ∧ m.role = .ADMIN

instance decidableLetIn (db : Db) (providerId userId : Id) : Decidable (LetIn db providerId userId) :=
  inferInstanceAs (Decidable (∃ m ∈ listAccessibleMemberships db userId, _))

def RecipientsLetIn (db : Db) : Prop := ∀ providerId,
  (∀ userId ∈ getActiveProviderManagers db providerId, LetIn db providerId userId) ∧
    ∀ request : ExecutionSnapshot, request.serviceProviderId = some providerId →
      ∀ userId ∈ executionManagers db request, LetIn db providerId userId

section Recipients

variable {db : Db} {providerId userId : Id}

theorem letIn_iff : LetIn db providerId userId ↔ (standing db).HasAccess providerId userId :=
  mem_listAccessibleMemberships

theorem mem_executionManagers {request : ExecutionSnapshot}
    (hprovider : request.serviceProviderId = some providerId)
    (h : userId ∈ executionManagers db request) :
    userId ∈ getActiveProviderManagers db providerId := by
  unfold executionManagers at h
  split at h
  · next p _ htruthy =>
    obtain ⟨hp, -⟩ := truthy_eq_some.mp htruthy
    obtain rfl := Option.some.inj (hprovider.symm.trans hp)
    exact h
  · cases h

theorem recipientsLetIn_iff : RecipientsLetIn db ↔ (standing db).ManagersHaveAccess := by
  constructor
  · intro h providerId userId hmanages
    exact (letIn_iff.mp ((h providerId).1 userId (mem_getActiveProviderManagers.mpr hmanages))).2
  · intro h providerId
    have hlet : ∀ userId ∈ getActiveProviderManagers db providerId,
        LetIn db providerId userId := by
      intro userId hmem
      have hmanages := mem_getActiveProviderManagers.mp hmem
      exact letIn_iff.mpr ⟨hmanages, h providerId userId hmanages⟩
    exact ⟨hlet, fun request hprovider userId hmem =>
      hlet userId (mem_executionManagers hprovider hmem)⟩

end Recipients

section Runs

variable {π : Type} [DecidableEq π] {calls : π → ProviderCall}

theorem recipientsLetIn_next_iff {l : π × Unit} {s : State π} (hcalls : Underway calls s)
    (hs : RecipientsLetIn s.shared) :
    RecipientsLetIn (Interleaving.next turns l s).shared ↔
      AtStep (Allowed calls fun s m => m.KeepsAccess s) l s := by
  rw [recipientsLetIn_iff] at hs
  rw [recipientsLetIn_iff]
  constructor
  · intro hnext effect next m hstep hm
    obtain ⟨hstanding, hfits⟩ := standing_next hstep hm
    rw [hstanding] at hnext
    exact (managersHaveAccess_apply_iff hfits hs).mp hnext
  · intro hallowed
    obtain hsame | ⟨effect, next, m, hstep, hm⟩ := turn_cases hcalls
    · rw [hsame]
      exact hs
    · obtain ⟨hstanding, hfits⟩ := standing_next hstep hm
      rw [hstanding]
      exact (managersHaveAccess_apply_iff hfits hs).mpr (hallowed effect next m hstep hm)

theorem provider_recipients_let_in_iff (calls : π → ProviderCall) (db : Db)
    (ls : List (π × Unit)) :
    (∀ ms, ms <+: ls → RecipientsLetIn (runFrom calls db ms).shared) ↔
      RecipientsLetIn db ∧ Run.Along (Interleaving.next turns)
        (AtStep (Allowed calls fun s m => m.KeepsAccess s)) (atStart calls db) ls :=
  Run.safe_iff_along (I := fun s : State π => RecipientsLetIn s.shared) (J := Underway calls)
    (fun _ _ => underway_next) (fun _ _ => recipientsLetIn_next_iff) underway_atStart

end Runs

section Scene

def orgManager : Auth.User where
  id := "manager"
  email := "manager@example.com"
  name := some "Manager"
  phone := none
  orgId := some "org"
  isActive := true
  passwordHash := "hash"
  refreshTokenHash := none
  mustChangePassword := false

def plumber : ServiceProvider where
  id := "provider"
  name := "Plumber"
  isActive := true
  serviceCategory := some "Plumbing"
  contactName := none
  contactEmail := none
  contactPhone := none
  notes := none

/-- A provider that nobody has been invited to. -/
def providerScene : Db where
  accounts := {
    users := ⟨[orgManager], by decide⟩
    books := {
      owners := .empty _
      grants := ⟨.empty _, by decide⟩
      grant_owner := by decide }
    ownerAccessGrantAudits := []
    passwordResetTokens := .empty _
    residentInvites := .empty _
    serviceProviderAccessGrants := .empty _
    notifications := [] }
  providers := ⟨[plumber], by decide⟩
  memberships := .empty _
  member_user := by decide

def inviteEnv : Auth.Env where
  now := 0
  ids := ⟨"user", "grant", "invite"⟩
  token := "token"
  temporaryPassword := "temporary"
  hashToken := id
  hashPassword := id
  toLowerCase := id
  passwordResetTtlMinutes := 60
  enqueuePasswordResetEmail := fun _ => .ok ()

def inviteCall : GrantCall :=
  .createPendingInvite inviteEnv ⟨"manager", "org", "provider"⟩ "admin@example.com"

/-- The administrator invited is told of the provider's requests before accepting. -/
theorem invited_administrator_notified : ¬ ∀ (π : Type) (_ : DecidableEq π)
    (calls : π → ProviderCall) (db : Db) (ls : List (π × Unit)), RecipientsLetIn db →
      RecipientsLetIn (runFrom calls db ls).shared := by
  intro h
  have hstart : RecipientsLetIn providerScene :=
    recipientsLetIn_iff.mpr fun _ _ hmanages => by cases hmanages.1
  have hlet := h Unit inferInstance (fun _ => .grant inviteCall) providerScene
    (List.replicate 9 ((), ())) hstart "provider"
  exact absurd (hlet.1 "user" (by decide +kernel)) (by decide +kernel)

end Scene

end Towerdesk.Providers
