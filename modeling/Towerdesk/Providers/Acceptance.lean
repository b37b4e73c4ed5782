import Towerdesk.Providers.Recipients

/-!
# Access by acceptance

Organisations invite, invite again and disable, at once and each stopped wherever it may be.
Access is gained by accepting alone, and no provider has two open grants, exactly when no
membership is made that lets somebody in and every grant is opened where none is open.
-/

namespace Towerdesk.Providers

open Interleaving (AtStep)

variable {π : Type}

/-- The call redeems the token of the user's invitation. -/
def Redeems (call : GrantCall) (userId : Id) (db : Db) : Prop :=
  ∃ env token newPassword t u, call = .redeem env token newPassword ∧
    Auth.findTokenWithUser (env.hashToken (trimString token)) db.accounts = some (t, u) ∧
      t.purpose = .PROVIDER_INVITE ∧ t.userId = userId

/-- Whoever is let in by a step had a pending grant, and redeems. -/
def GainsByAcceptance (calls : π → GrantCall) (p : π) (_ : Unit) (c : Call Unit) (db : Db) : Prop :=
  ∀ providerId userId, ¬ LetIn db providerId userId →
    LetIn (Script.advance c db).2 providerId userId →
      Redeems (calls p) userId db ∧
        ∃ g ∈ db.accounts.serviceProviderAccessGrants, g.serviceProviderId = providerId ∧
          g.userId = some userId ∧ g.status = .PENDING

def OneOpenGrantEach (db : Db) : Prop := ∀ providerId, countOpenAccessGrants db providerId ≤ 1

theorem countOpenAccessGrants_eq {db : Db} {providerId : Id} :
    countOpenAccessGrants db providerId = ((standing db).openGrants providerId).length := by
  simp only [countOpenAccessGrants, standing, Standing.openGrants, List.filter_map,
    List.length_map]
  congr 1
  refine List.filter_congr fun g _ => decide_eq_decide.mpr (and_congr_right fun _ => ?_)
  cases g.status <;> decide

theorem oneOpenGrantEach_iff {db : Db} : OneOpenGrantEach db ↔ (standing db).OneOpenGrant := by
  simp only [OneOpenGrantEach, countOpenAccessGrants_eq, Standing.OneOpenGrant]

section Runs

variable [DecidableEq π] {calls : π → GrantCall} {l : π × Unit} {s : State π}

abbrev grantCalls (calls : π → GrantCall) (p : π) : ProviderCall := .grant (calls p)

theorem redeems_of_accept {call : GrantCall} {effect : Db → Db} {db : Db} {userId : Id}
    (h : Performs (.grant call) effect db (.accept userId)) : Redeems call userId db := by
  cases h with
  | accept htoken hpurpose _ => exact ⟨_, _, _, _, _, rfl, htoken, hpurpose, rfl⟩

theorem not_setProvider {call : GrantCall} {effect : Db → Db} {db : Db} {m : Move}
    (h : Performs (.grant call) effect db m) (providerId : Id) (isActive : Bool) :
    m ≠ .setProvider providerId isActive := by
  rintro rfl
  cases h

/-- A turn that makes a move lets nobody in but by acceptance, and opens no second grant,
exactly when the move awaits acceptance. -/
theorem accepted_next_iff (hcalls : Underway (grantCalls calls) s)
    (hs : OneOpenGrantEach s.shared) :
    (AtStep (GainsByAcceptance calls) l s ∧
        OneOpenGrantEach (Interleaving.next turns l s).shared) ↔
      AtStep (Allowed (grantCalls calls) fun s m => m.AwaitsAcceptance s) l s := by
  rw [oneOpenGrantEach_iff] at hs
  rw [oneOpenGrantEach_iff]
  constructor
  · rintro ⟨hgains, hone⟩ effect next m hstep hm
    obtain ⟨hstanding, hfits⟩ := standing_next hstep hm
    rw [hstanding] at hone
    cases m with
    | setMember providerId userId role isActive =>
      intro hrole hmember huser hprovider
      by_contra hneither
      obtain ⟨hnot, hfree⟩ := not_or.mp hneither
      have hafter : LetIn (Interleaving.next turns l s).shared providerId userId := by
        rw [letIn_iff, hstanding]
        exact ⟨manages_setMember.mpr ⟨hrole, hmember, huser, hprovider⟩, hfree⟩
      obtain ⟨-, hpending⟩ := hgains providerId userId (letIn_iff.not.mpr hnot) hafter
      obtain ⟨g, hg, hp, hu, hstatus⟩ := (exists_grant (P := fun g =>
        g.serviceProviderId = providerId ∧ g.userId = some userId ∧ g.status = .PENDING)).mpr
          hpending
      exact hfree (blocked_of_pending hs hg hp hu hstatus)
    | openGrant grant => exact (oneOpenGrant_apply_iff hfits hs).mp hone grant rfl
    | newUser _ _ => trivial
    | disable _ => trivial
    | accept _ => trivial
    | setProvider _ _ => trivial
  · intro hallowed
    obtain hsame | ⟨effect, next, m, hstep, hm⟩ := turn_cases hcalls
    · refine ⟨fun providerId userId hnot hlet => absurd ?_ hnot, hsame ▸ hs⟩
      rw [letIn_iff, ← hsame]
      exact letIn_iff.mp hlet
    · obtain ⟨hstanding, hfits⟩ := standing_next hstep hm
      have hawaits := hallowed effect next m hstep hm
      constructor
      · intro providerId userId hnot hlet
        have hhas := letIn_iff.mp hlet
        change (standing (Interleaving.next turns l s).shared).HasAccess _ _ at hhas
        rw [hstanding] at hhas
        obtain ⟨rfl, hpending⟩ := gained_access hfits hawaits (not_setProvider hm providerId)
          (letIn_iff.not.mp hnot) hhas
        exact ⟨redeems_of_accept hm, exists_grant.mp hpending⟩
      · rw [hstanding]
        refine (oneOpenGrant_apply_iff hfits hs).mpr ?_
        rintro grant rfl
        exact hawaits

theorem provider_access_by_acceptance_iff (calls : π → GrantCall) (db : Db)
    (ls : List (π × Unit)) :
    (Run.Along (Interleaving.next turns) (AtStep (GainsByAcceptance calls))
        (atStart (grantCalls calls) db) ls ∧
      ∀ ms, ms <+: ls → OneOpenGrantEach (runFrom (grantCalls calls) db ms).shared) ↔
      OneOpenGrantEach db ∧ Run.Along (Interleaving.next turns)
        (AtStep (Allowed (grantCalls calls) fun s m => m.AwaitsAcceptance s))
        (atStart (grantCalls calls) db) ls :=
  Run.along_safe_iff (I := fun s : State π => OneOpenGrantEach s.shared)
    (J := Underway (grantCalls calls)) (fun _ _ => underway_next) (fun _ _ => accepted_next_iff)
    underway_atStart

end Runs

section Scene

/-- Two organisations invite at once. -/
def bothInvite (second : Bool) : GrantCall :=
  if second then
    .createPendingInvite { inviteEnv with ids := ⟨"second", "second grant", "invite"⟩ }
      ⟨"manager", "second org", "provider"⟩ "second@example.com"
  else inviteCall

/-- Both count the open grants before either opens one. -/
def bothCount : List (Bool × Unit) :=
  List.replicate 2 (false, ()) ++ List.replicate 2 (true, ()) ++
    (List.replicate 4 (false, ()) ++ List.replicate 4 (true, ()))

/-- Between the two writes of an invitation whoever is invited is let in, and two invitations
at once open two grants. -/
theorem invited_administrator_let_in : (¬ ∀ (π : Type) (_ : DecidableEq π) (calls : π → GrantCall)
      (db : Db) (ls : List (π × Unit)), OneOpenGrantEach db →
        Run.Along (Interleaving.next turns) (AtStep (GainsByAcceptance calls))
          (atStart (grantCalls calls) db) ls) ∧
    ¬ ∀ (π : Type) (_ : DecidableEq π) (calls : π → GrantCall) (db : Db)
      (ls : List (π × Unit)), OneOpenGrantEach db →
        OneOpenGrantEach (runFrom (grantCalls calls) db ls).shared := by
  have hstart : OneOpenGrantEach providerScene := fun _ => Nat.zero_le 1
  constructor
  · intro h
    have halong := h Unit inferInstance (fun _ => inviteCall) providerScene
      (List.replicate 4 ((), ()) ++ [((), ())]) hstart
    obtain ⟨⟨_, _, _, _, _, hcall, -⟩, -⟩ := halong.at_split.2 "provider" "user"
      (by decide +kernel) (by decide +kernel)
    cases hcall
  · intro h
    have hone := h Bool inferInstance bothInvite providerScene bothCount hstart "provider"
    exact absurd hone (by decide +kernel)

end Scene

end Towerdesk.Providers
