import Towerdesk.Directory
import Mathlib.Data.List.Perm.Basic
import Mathlib.Logic.Function.Basic

/-!
# Standing with a provider

Who is an administrator of a provider, and whether a grant stands in the way. A user with
grants of a provider has access to it only with an active one. Of the moves that change the
standing of users, only some can let an administrator lose access, and only some can give
somebody access.
-/

namespace Towerdesk.Providers

@[ext]
structure Standing where
  membership : Id → Id → Option (ServiceProviderUserRole × Bool)
  userActive : Id → Bool
  providerActive : Id → Bool
  grants : List ServiceProviderAccessGrant

namespace Standing

variable (s : Standing)

/-- Whom the provider's notifications go to. -/
def Manages (providerId userId : Id) : Prop :=
  s.membership providerId userId = some (.ADMIN, true) ∧ s.userActive userId = true ∧
    s.providerActive providerId = true

/-- With grants of the provider, none of them active. -/
def Blocked (providerId userId : Id) : Prop :=
  (∃ g ∈ s.grants, g.serviceProviderId = providerId ∧ g.userId = some userId) ∧
    ∀ g ∈ s.grants, g.serviceProviderId = providerId → g.userId = some userId → g.status ≠ .ACTIVE

/-- An administrator whom `listAccessibleMemberships` lets in. -/
def HasAccess (providerId userId : Id) : Prop :=
  s.Manages providerId userId ∧ ¬ s.Blocked providerId userId

/-- A member whom `listAccessibleMemberships` lets in, in this role. -/
def LetsIn (providerId userId : Id) (role : ServiceProviderUserRole) : Prop :=
  (s.membership providerId userId = some (role, true) ∧ s.userActive userId = true ∧
    s.providerActive providerId = true) ∧ ¬ s.Blocked providerId userId

def openGrants (providerId : Id) : List ServiceProviderAccessGrant :=
  s.grants.filter fun g => g.serviceProviderId = providerId ∧ g.status ≠ .DISABLED

def ManagersHaveAccess : Prop :=
  ∀ providerId userId, s.Manages providerId userId → ¬ s.Blocked providerId userId

def OneOpenGrant : Prop := ∀ providerId, (s.openGrants providerId).length ≤ 1

end Standing

inductive Move
  | newUser (userId : Id) (isActive : Bool)
  | setMember (providerId userId : Id) (role : ServiceProviderUserRole) (isActive : Bool)
  | openGrant (grant : ServiceProviderAccessGrant)
  | disable (grantId : Id)
  | accept (userId : Id)
  | setProvider (providerId : Id) (isActive : Bool)

namespace Move

def disabled (grantId : Id) (g : ServiceProviderAccessGrant) : ServiceProviderAccessGrant :=
  if g.id = grantId then { g with status := .DISABLED } else g

def accepted (userId : Id) (g : ServiceProviderAccessGrant) : ServiceProviderAccessGrant :=
  if g.userId = some userId ∧ g.status = .PENDING then { g with status := .ACTIVE } else g

def apply (s : Standing) : Move → Standing
  | newUser userId isActive =>
    { s with userActive := Function.update s.userActive userId isActive }
  | setMember providerId userId role isActive =>
    { s with
      membership := Function.update s.membership providerId
        (Function.update (s.membership providerId) userId (some (role, isActive))) }
  | openGrant grant => { s with grants := s.grants ++ [grant] }
  | disable grantId => { s with grants := s.grants.map (disabled grantId) }
  | accept userId => { s with grants := s.grants.map (accepted userId) }
  | setProvider providerId isActive =>
    { s with providerActive := Function.update s.providerActive providerId isActive }

/-- A new user is nobody's member, and a grant is opened pending. -/
def Fits (s : Standing) : Move → Prop
  | newUser userId _ => ∀ providerId, s.membership providerId userId = none
  | openGrant grant => grant.status = .PENDING
  | _ => True

/-- No administrator is left behind a grant. -/
def KeepsAccess (s : Standing) : Move → Prop
  | setMember providerId userId role isActive => role = .ADMIN → isActive = true →
      s.userActive userId = true → s.providerActive providerId = true →
        ¬ s.Blocked providerId userId
  | openGrant grant => ∀ userId, grant.userId = some userId →
      s.Manages grant.serviceProviderId userId →
        ∃ g ∈ s.grants, g.serviceProviderId = grant.serviceProviderId ∧
          g.userId = some userId ∧ g.status = .ACTIVE
  | disable grantId => ∀ grant ∈ s.grants, grant.id = grantId → ∀ userId,
      grant.userId = some userId → s.Manages grant.serviceProviderId userId →
        ∃ g ∈ s.grants, g.serviceProviderId = grant.serviceProviderId ∧
          g.userId = some userId ∧ g.status = .ACTIVE ∧ g.id ≠ grantId
  | setProvider providerId isActive => isActive = true → ∀ userId,
      s.membership providerId userId = some (.ADMIN, true) → s.userActive userId = true →
        ¬ s.Blocked providerId userId
  | _ => True

/-- Nobody gets access as an administrator without accepting, and no second grant is opened. -/
def AwaitsAcceptance (s : Standing) : Move → Prop
  | setMember providerId userId role isActive => role = .ADMIN → isActive = true →
      s.userActive userId = true → s.providerActive providerId = true →
        s.HasAccess providerId userId ∨ s.Blocked providerId userId
  | openGrant grant => s.openGrants grant.serviceProviderId = []
  | _ => True

end Move

section Access

variable {s : Standing} {providerId userId : Id}

theorem not_blocked_of_active {g : ServiceProviderAccessGrant} (hg : g ∈ s.grants)
    (hprovider : g.serviceProviderId = providerId) (huser : g.userId = some userId)
    (hactive : g.status = .ACTIVE) : ¬ s.Blocked providerId userId :=
  fun hblocked => hblocked.2 g hg hprovider huser hactive

theorem blocked_congr {s' : Standing}
    (h : ∀ g : ServiceProviderAccessGrant, g.serviceProviderId = providerId →
      g.userId = some userId → (g ∈ s'.grants ↔ g ∈ s.grants)) :
    s'.Blocked providerId userId ↔ s.Blocked providerId userId := by
  simp only [Standing.Blocked]
  refine and_congr (exists_congr fun g => ?_) (forall_congr' fun g => ?_)
  · exact and_congr_left fun hpair => h g hpair.1 hpair.2
  · constructor
    · exact fun hnot hg hprovider huser => hnot ((h g hprovider huser).mpr hg) hprovider huser
    · exact fun hnot hg hprovider huser => hnot ((h g hprovider huser).mp hg) hprovider huser

end Access

section Moves

variable {s : Standing} {m : Move} {providerId userId : Id}

theorem membership_setMember {role : ServiceProviderUserRole} {isActive : Bool} {p u : Id} :
    ((Move.setMember providerId userId role isActive).apply s).membership p u =
      if p = providerId ∧ u = userId then some (role, isActive) else s.membership p u := by
  simp only [Move.apply]
  by_cases hp : p = providerId
  · subst hp
    by_cases hu : u = userId
    · subst hu
      simp
    · simp [hu]
  · simp [hp]

theorem manages_setMember_of_ne {role : ServiceProviderUserRole} {isActive : Bool} {p u : Id}
    (h : ¬ (p = providerId ∧ u = userId)) :
    ((Move.setMember providerId userId role isActive).apply s).Manages p u ↔ s.Manages p u := by
  rw [Standing.Manages, Standing.Manages, membership_setMember, if_neg h]
  rfl

theorem manages_setMember {role : ServiceProviderUserRole} {isActive : Bool} :
    ((Move.setMember providerId userId role isActive).apply s).Manages providerId userId ↔
      role = .ADMIN ∧ isActive = true ∧ s.userActive userId = true ∧
        s.providerActive providerId = true := by
  rw [Standing.Manages, membership_setMember, if_pos ⟨rfl, rfl⟩, Option.some.injEq, Prod.mk.injEq,
    and_assoc]
  rfl

theorem manages_newUser {isActive : Bool} {p u : Id}
    (hnew : ∀ providerId, s.membership providerId userId = none) :
    ((Move.newUser userId isActive).apply s).Manages p u ↔ s.Manages p u := by
  simp only [Standing.Manages, Move.apply]
  by_cases hu : u = userId
  · subst hu
    rw [hnew p]
    exact iff_of_false (fun h => by cases h.1) fun h => by cases h.1
  · rw [Function.update_of_ne hu]

theorem manages_setProvider_of_ne {isActive : Bool} {p u : Id} (h : p ≠ providerId) :
    ((Move.setProvider providerId isActive).apply s).Manages p u ↔ s.Manages p u := by
  simp only [Standing.Manages, Move.apply, Function.update_of_ne h]

theorem manages_setProvider {isActive : Bool} {u : Id} :
    ((Move.setProvider providerId isActive).apply s).Manages providerId u ↔
      s.membership providerId u = some (.ADMIN, true) ∧ s.userActive u = true ∧
        isActive = true := by
  simp only [Standing.Manages, Move.apply, Function.update_self]

theorem mem_disabled {grantId : Id} {g : ServiceProviderAccessGrant} :
    g ∈ ((Move.disable grantId).apply s).grants ↔
      (g ∈ s.grants ∧ g.id ≠ grantId) ∨
        ∃ old ∈ s.grants, old.id = grantId ∧ g = { old with status := .DISABLED } := by
  simp only [Move.apply, List.mem_map, Move.disabled]
  constructor
  · rintro ⟨old, hold, rfl⟩
    by_cases hid : old.id = grantId
    · rw [if_pos hid]
      exact .inr ⟨old, hold, hid, rfl⟩
    · rw [if_neg hid]
      exact .inl ⟨hold, hid⟩
  · rintro (⟨hg, hid⟩ | ⟨old, hold, hid, rfl⟩)
    · exact ⟨g, hg, if_neg hid⟩
    · exact ⟨old, hold, if_pos hid⟩

theorem blocked_openGrant_of_ne {grant : ServiceProviderAccessGrant}
    (h : ¬ (grant.serviceProviderId = providerId ∧ grant.userId = some userId)) :
    ((Move.openGrant grant).apply s).Blocked providerId userId ↔ s.Blocked providerId userId := by
  refine blocked_congr fun g hprovider huser => ?_
  simp only [Move.apply, List.mem_append, List.mem_singleton]
  refine or_iff_left ?_
  rintro rfl
  exact h ⟨hprovider, huser⟩

theorem blocked_openGrant {grant : ServiceProviderAccessGrant} (hpending : grant.status = .PENDING)
    (hprovider : grant.serviceProviderId = providerId) (huser : grant.userId = some userId) :
    ((Move.openGrant grant).apply s).Blocked providerId userId ↔
      ¬ ∃ g ∈ s.grants, g.serviceProviderId = providerId ∧ g.userId = some userId ∧
        g.status = .ACTIVE := by
  simp only [Standing.Blocked, Move.apply, List.mem_append, List.mem_singleton]
  constructor
  · rintro ⟨-, hnone⟩ ⟨g, hg, hp, hu, hactive⟩
    exact hnone g (.inl hg) hp hu hactive
  · intro hnone
    refine ⟨⟨grant, .inr rfl, hprovider, huser⟩, ?_⟩
    rintro g (hg | rfl) hp hu hactive
    · exact hnone ⟨g, hg, hp, hu, hactive⟩
    · rw [hpending] at hactive
      cases hactive

theorem blocked_disable {grantId : Id} {grant : ServiceProviderAccessGrant}
    (hgrant : grant ∈ s.grants) (hid : grant.id = grantId)
    (hprovider : grant.serviceProviderId = providerId) (huser : grant.userId = some userId) :
    ((Move.disable grantId).apply s).Blocked providerId userId ↔
      ¬ ∃ g ∈ s.grants, g.serviceProviderId = providerId ∧ g.userId = some userId ∧
        g.status = .ACTIVE ∧ g.id ≠ grantId := by
  constructor
  · rintro ⟨-, hnone⟩ ⟨g, hg, hp, hu, hactive, hne⟩
    exact hnone g (mem_disabled.mpr (.inl ⟨hg, hne⟩)) hp hu hactive
  · intro hnone
    refine ⟨⟨{ grant with status := .DISABLED }, ?_, hprovider, huser⟩, ?_⟩
    · exact mem_disabled.mpr (.inr ⟨grant, hgrant, hid, rfl⟩)
    · intro g hg hp hu hactive
      obtain ⟨hg, hne⟩ | ⟨old, -, -, rfl⟩ := mem_disabled.mp hg
      · exact hnone ⟨g, hg, hp, hu, hactive, hne⟩
      · cases hactive

theorem blocked_disable_of_none {grantId : Id}
    (h : ∀ g ∈ s.grants, g.id = grantId →
      ¬ (g.serviceProviderId = providerId ∧ g.userId = some userId)) :
    ((Move.disable grantId).apply s).Blocked providerId userId ↔ s.Blocked providerId userId := by
  refine blocked_congr fun g hprovider huser => ?_
  rw [mem_disabled]
  constructor
  · rintro (⟨hg, -⟩ | ⟨old, hold, hid, rfl⟩)
    · exact hg
    · exact absurd ⟨hprovider, huser⟩ (h old hold hid)
  · exact fun hg => .inl ⟨hg, fun hid => h g hg hid ⟨hprovider, huser⟩⟩

theorem blocked_of_accept {acceptor : Id}
    (h : ((Move.accept acceptor).apply s).Blocked providerId userId) :
    s.Blocked providerId userId := by
  obtain ⟨⟨g, hg, hprovider, huser⟩, hnone⟩ := h
  have hsame : ∀ old : ServiceProviderAccessGrant,
      (Move.accepted acceptor old).serviceProviderId = old.serviceProviderId ∧
        (Move.accepted acceptor old).userId = old.userId ∧
          (old.status = .ACTIVE → (Move.accepted acceptor old).status = .ACTIVE) := by
    intro old
    unfold Move.accepted
    split_ifs
    · exact ⟨rfl, rfl, fun _ => rfl⟩
    · exact ⟨rfl, rfl, id⟩
  refine ⟨?_, fun old hold hp hu hactive => ?_⟩
  · obtain ⟨old, hold, rfl⟩ := List.mem_map.mp hg
    exact ⟨old, hold, (hsame old).1 ▸ hprovider, (hsame old).2.1 ▸ huser⟩
  · refine hnone _ (List.mem_map_of_mem hold) ?_ ?_ ((hsame old).2.2 hactive)
    · exact (hsame old).1.trans hp
    · exact (hsame old).2.1.trans hu

theorem managersHaveAccess_apply_iff (hfits : m.Fits s) (h : s.ManagersHaveAccess) :
    (m.apply s).ManagersHaveAccess ↔ m.KeepsAccess s := by
  cases m with
  | newUser userId isActive =>
    exact iff_of_true (fun p u hmanages => h p u ((manages_newUser hfits).mp hmanages)) trivial
  | setMember providerId userId role isActive =>
    constructor
    · intro hafter hrole hmember huser hprovider
      exact hafter providerId userId (manages_setMember.mpr ⟨hrole, hmember, huser, hprovider⟩)
    · intro hkeeps p u hmanages
      by_cases hpair : p = providerId ∧ u = userId
      · obtain ⟨rfl, rfl⟩ := hpair
        obtain ⟨hrole, hmember, huser, hprovider⟩ := manages_setMember.mp hmanages
        exact hkeeps hrole hmember huser hprovider
      · exact h p u ((manages_setMember_of_ne hpair).mp hmanages)
  | openGrant grant =>
    constructor
    · intro hafter userId huser hmanages
      by_contra hnone
      exact hafter _ _ hmanages ((blocked_openGrant hfits rfl huser).mpr hnone)
    · intro hkeeps p u hmanages
      by_cases hpair : grant.serviceProviderId = p ∧ grant.userId = some u
      · obtain ⟨rfl, huser⟩ := hpair
        rw [blocked_openGrant hfits rfl huser, not_not]
        exact hkeeps u huser hmanages
      · rw [blocked_openGrant_of_ne hpair]
        exact h p u hmanages
  | disable grantId =>
    constructor
    · intro hafter grant hgrant hid userId huser hmanages
      by_contra hnone
      exact hafter _ _ hmanages ((blocked_disable hgrant hid rfl huser).mpr hnone)
    · intro hkeeps p u hmanages
      by_cases hgrant : ∃ g ∈ s.grants, g.id = grantId ∧ g.serviceProviderId = p ∧
          g.userId = some u
      · obtain ⟨grant, hgrant, hid, rfl, huser⟩ := hgrant
        rw [blocked_disable hgrant hid rfl huser, not_not]
        exact hkeeps grant hgrant hid u huser hmanages
      · rw [blocked_disable_of_none fun g hg hid hpair => hgrant ⟨g, hg, hid, hpair⟩]
        exact h p u hmanages
  | accept userId =>
    exact iff_of_true (fun p u hmanages hblocked => h p u hmanages (blocked_of_accept hblocked))
      trivial
  | setProvider providerId isActive =>
    constructor
    · intro hafter hactive userId hmember huser
      exact hafter providerId userId (manages_setProvider.mpr ⟨hmember, huser, hactive⟩)
    · intro hkeeps p u hmanages
      by_cases hp : p = providerId
      · subst hp
        obtain ⟨hmember, huser, hactive⟩ := manages_setProvider.mp hmanages
        exact hkeeps hactive u hmember huser
      · exact h p u ((manages_setProvider_of_ne hp).mp hmanages)

end Moves

section Acceptance

variable {s : Standing} {m : Move} {providerId userId : Id}

/-- Access is gained by accepting a pending grant, unless a provider is set. -/
theorem gained_access (hfits : m.Fits s) (hawaits : m.AwaitsAcceptance s)
    (hprovider : ∀ isActive, m ≠ .setProvider providerId isActive)
    (hnot : ¬ s.HasAccess providerId userId) (hhas : (m.apply s).HasAccess providerId userId) :
    m = .accept userId ∧ ∃ g ∈ s.grants, g.serviceProviderId = providerId ∧
      g.userId = some userId ∧ g.status = .PENDING := by
  obtain ⟨hmanages, hfree⟩ := hhas
  cases m with
  | newUser newId isActive => exact absurd ⟨(manages_newUser hfits).mp hmanages, hfree⟩ hnot
  | setMember p u role isActive =>
    by_cases hpair : providerId = p ∧ userId = u
    · obtain ⟨rfl, rfl⟩ := hpair
      obtain ⟨hrole, hmember, huser, hactive⟩ := manages_setMember.mp hmanages
      obtain hhad | hblocked := hawaits hrole hmember huser hactive
      · exact absurd hhad hnot
      · exact absurd hblocked hfree
    · exact absurd ⟨(manages_setMember_of_ne hpair).mp hmanages, hfree⟩ hnot
  | openGrant grant =>
    refine absurd ⟨hmanages, fun hblocked => hfree ?_⟩ hnot
    by_cases hpair : grant.serviceProviderId = providerId ∧ grant.userId = some userId
    · rw [blocked_openGrant hfits hpair.1 hpair.2]
      rintro ⟨g, hg, hp, hu, hactive⟩
      exact not_blocked_of_active hg hp hu hactive hblocked
    · exact (blocked_openGrant_of_ne hpair).mpr hblocked
  | disable grantId =>
    refine absurd ⟨hmanages, fun hblocked => hfree ?_⟩ hnot
    by_cases hgrant : ∃ g ∈ s.grants, g.id = grantId ∧ g.serviceProviderId = providerId ∧
        g.userId = some userId
    · obtain ⟨grant, hgrant, hid, hp, hu⟩ := hgrant
      rw [blocked_disable hgrant hid hp hu]
      rintro ⟨g, hg, hp, hu, hactive, -⟩
      exact not_blocked_of_active hg hp hu hactive hblocked
    · exact (blocked_disable_of_none fun g hg hid hpair => hgrant ⟨g, hg, hid, hpair⟩).mpr hblocked
  | accept acceptor =>
    have hblocked : s.Blocked providerId userId := by
      by_contra hfree
      exact hnot ⟨hmanages, hfree⟩
    by_cases hpending : ∃ g ∈ s.grants, g.serviceProviderId = providerId ∧
        g.userId = some userId ∧ g.userId = some acceptor ∧ g.status = .PENDING
    · obtain ⟨g, hg, hp, hu, haccepts, hpending⟩ := hpending
      obtain rfl := Option.some.inj (hu.symm.trans haccepts)
      exact ⟨rfl, g, hg, hp, hu, hpending⟩
    · refine absurd ((blocked_congr fun g hp hu => ?_).mpr hblocked) hfree
      have hkept : ∀ old ∈ s.grants, old.serviceProviderId = providerId →
          old.userId = some userId → Move.accepted acceptor old = old := fun old hold hp hu =>
        if_neg fun haccepts => hpending ⟨old, hold, hp, hu, haccepts.1, haccepts.2⟩
      constructor
      · intro hg
        obtain ⟨old, hold, rfl⟩ := List.mem_map.mp hg
        have hsame : (Move.accepted acceptor old).serviceProviderId = old.serviceProviderId ∧
            (Move.accepted acceptor old).userId = old.userId := by
          unfold Move.accepted
          split_ifs <;> exact ⟨rfl, rfl⟩
        rwa [hkept old hold (hsame.1 ▸ hp) (hsame.2 ▸ hu)]
      · exact fun hg => List.mem_map.mpr ⟨g, hg, hkept g hg hp hu⟩
  | setProvider p isActive =>
    by_cases hp : providerId = p
    · exact absurd (by rw [hp]) (hprovider isActive)
    · exact absurd ⟨(manages_setProvider_of_ne hp).mp hmanages, hfree⟩ hnot

theorem length_openGrants_map {f : ServiceProviderAccessGrant → ServiceProviderAccessGrant}
    (hprovider : ∀ g, (f g).serviceProviderId = g.serviceProviderId)
    (hdisabled : ∀ g, g.status = .DISABLED → (f g).status = .DISABLED) :
    (Standing.openGrants { s with grants := s.grants.map f } providerId).length ≤
      (s.openGrants providerId).length := by
  simp only [Standing.openGrants, List.filter_map, List.length_map]
  refine (List.monotone_filter_right _ fun g hg => ?_).length_le
  obtain ⟨hp, hopen⟩ := of_decide_eq_true hg
  exact decide_eq_true ⟨(hprovider g).symm.trans hp, fun h => hopen (hdisabled g h)⟩

theorem openGrants_openGrant {grant : ServiceProviderAccessGrant}
    (hpending : grant.status = .PENDING) :
    ((Move.openGrant grant).apply s).openGrants providerId =
      s.openGrants providerId ++ if grant.serviceProviderId = providerId then [grant] else [] := by
  simp only [Standing.openGrants, Move.apply, List.filter_append, List.filter_singleton, hpending]
  simp

theorem oneOpenGrant_apply_iff (hfits : m.Fits s) (h : s.OneOpenGrant) :
    (m.apply s).OneOpenGrant ↔
      ∀ grant, m = .openGrant grant → s.openGrants grant.serviceProviderId = [] := by
  cases m with
  | newUser _ _ => exact iff_of_true h fun _ h => by cases h
  | setMember _ _ _ _ => exact iff_of_true h fun _ h => by cases h
  | openGrant grant =>
    constructor
    · rintro hafter _ ⟨⟩
      have hone := hafter grant.serviceProviderId
      rw [openGrants_openGrant hfits, if_pos rfl, List.length_append] at hone
      exact List.length_eq_zero_iff.mp (Nat.le_zero.mp (Nat.le_of_succ_le_succ hone))
    · intro hnone p
      rw [openGrants_openGrant hfits]
      split_ifs with hp
      · rw [← hp, hnone grant rfl]
        exact le_refl 1
      · rw [List.append_nil]
        exact h p
  | disable grantId =>
    refine iff_of_true (fun p => (length_openGrants_map ?_ ?_).trans (h p)) fun _ h => by cases h
    · intro g
      unfold Move.disabled
      split_ifs <;> rfl
    · intro g hg
      unfold Move.disabled
      split_ifs
      · rfl
      · exact hg
  | accept userId =>
    refine iff_of_true (fun p => (length_openGrants_map ?_ ?_).trans (h p)) fun _ h => by cases h
    · intro g
      unfold Move.accepted
      split_ifs <;> rfl
    · intro g hg
      have hnot : ¬ (g.userId = some userId ∧ g.status = .PENDING) := by
        rintro ⟨-, hpending⟩
        rw [hg] at hpending
        cases hpending
      rw [Move.accepted, if_neg hnot]
      exact hg
  | setProvider _ _ => exact iff_of_true h fun _ h => by cases h

theorem eq_of_open {g g' : ServiceProviderAccessGrant} (h : s.OneOpenGrant) (hg : g ∈ s.grants)
    (hg' : g' ∈ s.grants) (hprovider : g.serviceProviderId = g'.serviceProviderId)
    (hopen : g.status ≠ .DISABLED) (hopen' : g'.status ≠ .DISABLED) : g = g' := by
  have hmem : g ∈ s.openGrants g'.serviceProviderId :=
    List.mem_filter.mpr ⟨hg, decide_eq_true ⟨hprovider, hopen⟩⟩
  have hmem' : g' ∈ s.openGrants g'.serviceProviderId :=
    List.mem_filter.mpr ⟨hg', decide_eq_true ⟨rfl, hopen'⟩⟩
  match hl : s.openGrants g'.serviceProviderId, h g'.serviceProviderId with
  | [], _ =>
    rw [hl] at hmem
    cases hmem
  | [a], _ =>
    rw [hl, List.mem_singleton] at hmem hmem'
    rw [hmem, hmem']

theorem blocked_of_pending {g : ServiceProviderAccessGrant} (h : s.OneOpenGrant)
    (hg : g ∈ s.grants) (hprovider : g.serviceProviderId = providerId)
    (huser : g.userId = some userId) (hpending : g.status = .PENDING) :
    s.Blocked providerId userId := by
  refine ⟨⟨g, hg, hprovider, huser⟩, fun g' hg' hprovider' _ hactive => ?_⟩
  obtain rfl := eq_of_open h hg hg' (hprovider.trans hprovider'.symm)
    (fun hd => by cases hpending.symm.trans hd) fun hd => by cases hactive.symm.trans hd
  cases hpending.symm.trans hactive

end Acceptance

end Towerdesk.Providers
