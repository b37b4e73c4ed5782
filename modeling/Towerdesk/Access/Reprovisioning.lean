import Towerdesk.Access.RoleDeletion
import Towerdesk.Users.SecondCall

/-!
# Provisioning a user again

A provisioning reads what is there, commits once and answers. What it has left is what the
same call would find, so a second call finds its user, its assignments, its overrides and its
occupancy, writes nothing that is not there already and answers the same. A resident who is
moved has one active occupancy afterwards, at the unit asked for.
-/

namespace Towerdesk.Access

open Leases (DbError)
open Script (query throwIf orThrow Reads reads_query reads_done reads_bind reads_collect)
open Users (ProvisionAccessAssignmentDto OrgUserProvisionParams ResidentGrantDto dedupeAssignments
  targetUser grantedOccupancy Wrote Landed)

structure UserResidentDto where
  occupancyId : Id
  unitId : Id
  buildingId : Id
deriving DecidableEq

structure ProvisionMutationResult where
  userId : Id
  applied : Applied
  resident : Option UserResidentDto
deriving DecidableEq

section Service

def appliedResident (env : Leases.Env) (db : Leases.Db) (userId : Id)
    (residentGrant : Option ResidentGrantDto) : Option UserResidentDto :=
  (residentGrant.bind (grantedOccupancy env db userId)).map fun o => ⟨o.id, o.unitId, o.buildingId⟩

/-- The grant to a resident with what it reports. -/
def residentGrant (env : Leases.Env) (params : OrgUserProvisionParams) (userId : Id)
    (db : Leases.Db) : Result (Leases.Plan × Option UserResidentDto) := do
  let plan ← Users.applyResidentGrant env db params.orgId userId params.resident
  return (plan, appliedResident env db userId params.resident)

variable (env : Env) (params : OrgUserProvisionParams) (ensureResidentBaselinePermissions : Bool)

/-- `provisionOrgUser` with the occupancy it reports. -/
def provision : Call ProvisionMutationResult := do
  let (userId, user) ← query fun db => targetUser (env.at db) db.tenancy params
  let baseline ← baselinePermissions ensureResidentBaselinePermissions params userId
  let grants ← Script.collect (resolveGrant env params.orgId userId)
    (dedupeAssignments params.accessAssignments)
  let (plan, resident) ← query fun db => residentGrant (env.at db) params userId db.tenancy
  commit (user.toList.map .tenancy ++ baseline.map .addUserPermission ++
    grants.flatMap ResolvedGrant.writes ++ tenancyWrites plan)
  assertResponse userId params.orgId
  return ⟨userId, appliedAssignments env grants, resident⟩

end Service

section Reads

variable (env : Env) (params : OrgUserProvisionParams) (ensureResidentBaselinePermissions : Bool)
  (userId : Id) (db : Db)

def scopeFound (orgId : Id) (scopeType : AccessScopeType) (scopeId : Option Id) : Result Unit :=
  match scopeType with
  | .ORG => .ok ()
  | .BUILDING => do
    let scopeId ← Outcome.orThrow (truthy scopeId)
      (.badRequest "BUILDING assignments require a building scopeId")
    db.assertBuildingInOrg scopeId orgId

/-- What a grant is resolved to in a store. -/
def resolvedGrant (orgId : Id) (grant : ProvisionAccessAssignmentDto) : Result ResolvedGrant := do
  let roleTemplate ← Users.findRoleTemplateForProvisioning (env.at db) orgId grant
  let scopeId := scopeIdOf grant.scopeType grant.scopeId
  Outcome.throwIf (roleTemplate.scopeType ≠ grant.scopeType)
    (.badRequest "Assignment scopeType must match the role template scopeType")
  scopeFound db orgId grant.scopeType scopeId
  let duplicate ←
    .ok (db.findDuplicateUserAccessAssignment userId roleTemplate.id grant.scopeType scopeId)
  return {
    row := newAssignment env userId roleTemplate.id grant.scopeType scopeId
    roleTemplateKey := roleTemplate.key
    duplicate := duplicate.map (·.id) }

def baselineOf : List UserPermission :=
  if ensureResidentBaselinePermissions = true ∨ params.resident.isSome then
    Messaging.residentPermissions db.tables userId
  else []

theorem reads_assertScope (orgId : Id) (scopeType : AccessScopeType) (scopeId : Option Id) :
    (assertScope orgId scopeType scopeId).Reads fun db => scopeFound db orgId scopeType scopeId := by
  cases scopeType with
  | ORG => exact reads_done (.ok ())
  | BUILDING => exact reads_bind (reads_done _) fun _ => reads_query _

theorem reads_resolveGrant (orgId : Id) (grant : ProvisionAccessAssignmentDto) :
    (resolveGrant env orgId userId grant).Reads fun db => resolvedGrant env userId db orgId grant :=
  reads_bind (reads_query _) fun _ => reads_bind (reads_done _) fun _ =>
    reads_bind (reads_assertScope orgId _ _) fun _ => reads_bind (reads_query _) fun _ =>
      reads_done (.ok _)

theorem reads_baselinePermissions :
    (baselinePermissions ensureResidentBaselinePermissions params userId).Reads fun db =>
      .ok (baselineOf params ensureResidentBaselinePermissions userId db) := by
  unfold baselinePermissions baselineOf
  split_ifs
  · exact reads_query _
  · exact reads_done (.ok [])

theorem run_commit_bind {α : Type} {ws : List DbWrite} {g : Unit → Call α} {a : α} {db db' : Db} :
    (commit ws >>= g).run db = .ok a db' ↔
      ∃ db₁, commits ws db = .ok db₁ ∧ (g ()).run db₁ = .ok a db' := by
  obtain ⟨e, hcommit, hrun⟩ | ⟨db₁, hcommit, hrun⟩ := commit_cases ws db
  · have hthrown : (commit ws >>= g).run db = .error e db := by
      change (Script.done (Script.outcome _) >>= g).run (Transaction.final _) = _
      rw [hrun]
      rfl
    rw [hthrown, hcommit]
    simp
  · have hdone : (commit ws >>= g).run db = (g ()).run db₁ := by
      change (Script.done (Script.outcome _) >>= g).run (Transaction.final _) = _
      rw [hrun]
      rfl
    rw [hdone, hcommit]
    simp

def inOrg (db : Db) (userId orgId : Id) : Bool :=
  (db.tenancy.directory.users.findUnique userId).any fun u => u.orgId = some orgId

theorem reads_assertResponse (orgId : Id) :
    (assertResponse userId orgId).Reads fun db =>
      Outcome.throwIf (¬ inOrg db userId orgId) (.notFound "User not found") :=
  reads_query _

/-- What a provisioning has found and written when it returns. -/
structure Provisioned (db db' : Db) (result : ProvisionMutationResult)
    (user : Option Leases.DbWrite) (grants : List ResolvedGrant) (plan : Leases.Plan) : Prop where
  target : targetUser (env.at db) db.tenancy params = .ok (result.userId, user)
  resolved : (dedupeAssignments params.accessAssignments).mapM
    (resolvedGrant env result.userId db params.orgId) = .ok grants
  planned : Users.applyResidentGrant (env.at db) db.tenancy params.orgId result.userId
    params.resident = .ok plan
  committed : commits (provisionWrites user
    (baselineOf params ensureResidentBaselinePermissions result.userId db) grants plan) db = .ok db'
  inOrg : inOrg db' result.userId params.orgId = true
  applied : result.applied = appliedAssignments env grants
  resident : result.resident =
    appliedResident (env.at db) db.tenancy result.userId params.resident

variable {env params ensureResidentBaselinePermissions} in
theorem provision_eq_ok {db db' : Db} {result : ProvisionMutationResult} :
    (provision env params ensureResidentBaselinePermissions).run db = .ok result db' ↔
      ∃ user grants plan,
        Provisioned env params ensureResidentBaselinePermissions db db' result user grants plan := by
  unfold provision
  rw [(reads_query _).run_bind_eq_ok]
  constructor
  · rintro ⟨⟨userId, user⟩, htarget, hrun⟩
    obtain ⟨_, hbaseline, hgrant⟩ := (reads_baselinePermissions _ _ _).run_bind_eq_ok.mp hrun
    obtain rfl := Except.ok.inj hbaseline
    obtain ⟨grants, hgrants, hreside⟩ :=
      (reads_collect (reads_resolveGrant env userId params.orgId) _).run_bind_eq_ok.mp hgrant
    obtain ⟨⟨plan, resident⟩, hplan, hwrite⟩ := (reads_query _).run_bind_eq_ok.mp hreside
    obtain ⟨db₁, hcommit, hanswer⟩ := run_commit_bind.mp hwrite
    obtain ⟨_, hresponse, hdone⟩ :=
      (reads_assertResponse userId params.orgId).run_bind_eq_ok.mp hanswer
    obtain ⟨_, hplanned, hresident⟩ := Outcome.bind_eq_ok.mp hplan
    obtain ⟨rfl, rfl⟩ := Prod.mk.inj (Outcome.pure_eq_ok.mp hresident)
    cases hdone
    exact ⟨user, grants, _, htarget, hgrants, hplanned, hcommit,
      not_not.mp (Outcome.throwIf_eq_ok.mp hresponse), rfl, rfl⟩
  · rintro ⟨user, grants, plan, h⟩
    refine ⟨(result.userId, user), h.target, ?_⟩
    refine (reads_baselinePermissions _ _ _).run_bind_eq_ok.mpr ⟨_, rfl, ?_⟩
    refine (reads_collect (reads_resolveGrant env result.userId params.orgId) _).run_bind_eq_ok.mpr
      ⟨grants, h.resolved, ?_⟩
    refine (reads_query _).run_bind_eq_ok.mpr ⟨(plan, result.resident), ?_, ?_⟩
    · exact Outcome.bind_eq_ok.mpr ⟨plan, h.planned, by rw [h.resident]; rfl⟩
    · refine run_commit_bind.mpr ⟨db', h.committed, ?_⟩
      refine (reads_assertResponse result.userId params.orgId).run_bind_eq_ok.mpr
        ⟨(), Outcome.throwIf_eq_ok.mpr (not_not.mpr h.inOrg), ?_⟩
      rw [← h.applied]
      rfl

/-- Without the occupancy it reports, it is the provisioning that takes turns with other calls. -/
theorem provision_forgets :
    (provision env params ensureResidentBaselinePermissions >>= fun result =>
        pure (result.userId, result.applied)) =
      provisionOrgUser env params ensureResidentBaselinePermissions := by
  unfold provision provisionOrgUser
  simp only [Script.bind_bind]
  refine congrArg (query _ >>= ·) (funext fun target => ?_)
  obtain ⟨userId, user⟩ := target
  dsimp only
  refine congrArg (baselinePermissions _ _ _ >>= ·) (funext fun baseline => ?_)
  refine congrArg (Script.collect _ _ >>= ·) (funext fun grants => ?_)
  refine congrArg (Script.step id) (funext fun db => ?_)
  simp only [residentGrant]
  cases Users.applyResidentGrant (env.at db) db.tenancy params.orgId userId params.resident with
  | error e => rfl
  | ok plan => rfl

end Reads

section Commits

variable {db db₁ db' : Db} {ws ws' : List DbWrite} {grants : List ResolvedGrant}
  {rows : List UserPermission}

theorem commits_append :
    commits (ws ++ ws') db = .ok db' ↔ ∃ db₁, commits ws db = .ok db₁ ∧ commits ws' db₁ = .ok db' := by
  rw [commits, List.map_append]
  exact Transaction.commit_append

theorem commits_cons {w : DbWrite} :
    commits (w :: ws) db = .ok db' ↔ ∃ db₁, w.apply db = .ok db₁ ∧ commits ws db₁ = .ok db' :=
  Transaction.commit_write

theorem commits_nil : commits [] db = .ok db' ↔ db = db' := Transaction.commit_nil

theorem commits_idle (h : ∀ w ∈ ws, w.apply db = .ok db) : commits ws db = .ok db := by
  induction ws with
  | nil => rfl
  | cons w ws ih =>
    exact commits_cons.mpr ⟨db, h w List.mem_cons_self,
      ih fun w' hw' => h w' (List.mem_cons_of_mem w hw')⟩

theorem commits_tenancy {ws : List Leases.DbWrite} :
    commits (ws.map .tenancy) db = .ok db' ↔
      ∃ t, Wrote ws db.tenancy t ∧ { db with tenancy := t } = db' := by
  induction ws generalizing db with
  | nil => simp [Wrote, commits_nil]
  | cons w ws ih =>
    rw [List.map_cons, commits_cons]
    constructor
    · rintro ⟨_, happly, hrest⟩
      obtain ⟨t₁, hw, rfl⟩ := apply_tenancy.mp happly
      obtain ⟨t, hws, rfl⟩ := ih.mp hrest
      exact ⟨t, ⟨t₁, hw, hws⟩, rfl⟩
    · rintro ⟨t, ⟨t₁, hw, hws⟩, rfl⟩
      exact ⟨_, apply_tenancy.mpr ⟨t₁, hw, rfl⟩, ih.mpr ⟨t, hws, rfl⟩⟩

/-- An override of the user and the permission is there. -/
structure Overridden (db : Db) (row : UserPermission) : Prop where
  user : db.hasUser row.userId = true
  permission : db.hasPermission row.permissionId = true
  taken : ∃ p ∈ db.userPermissions, p.key = row.key

theorem Overridden.idle {row : UserPermission} (h : Overridden db row) :
    (DbWrite.addUserPermission row).apply db = .ok db := by
  have hnone : db.userPermissions.insert row = none := by
    cases hinsert : db.userPermissions.insert row with
    | none => rfl
    | some t =>
      obtain ⟨p, hp, hkey⟩ := h.taken
      exact absurd hkey (Table.fresh_of_insert hinsert hp)
  exact apply_addUserPermission.mpr ⟨⟨h.user, h.permission⟩, by rw [hnone]; rfl⟩

theorem commits_baseline (h : commits (rows.map .addUserPermission) db = .ok db') :
    ∃ userPermissions, { db with userPermissions } = db' ∧
      (∀ p ∈ db.userPermissions, p ∈ userPermissions) ∧ ∀ row ∈ rows, Overridden db' row := by
  induction rows generalizing db with
  | nil =>
    obtain rfl := commits_nil.mp h
    exact ⟨db.userPermissions, rfl, fun p hp => hp, by simp⟩
  | cons row rows ih =>
    obtain ⟨_, happly, hrest⟩ := commits_cons.mp h
    obtain ⟨⟨huser, hpermission⟩, rfl⟩ := apply_addUserPermission.mp happly
    obtain ⟨userPermissions, rfl, hkept, hadded⟩ := ih hrest
    refine ⟨userPermissions, rfl, fun p hp => hkept p (Table.mem_getD_insert hp), fun row' hrow' => ?_⟩
    rcases List.mem_cons.mp hrow' with rfl | hrow'
    · obtain ⟨p, hp, hkey⟩ := Table.exists_key_getD_insert (t := db.userPermissions) (a := row')
      exact ⟨huser, hpermission, p, hkept p hp, hkey⟩
    · exact hadded row' hrow'

theorem commits_grants (h : commits (grants.flatMap ResolvedGrant.writes) db = .ok db') :
    ∃ userAccessAssignments, { db with userAccessAssignments } = db' ∧
      ∃ added, userAccessAssignments.rows = db.userAccessAssignments.rows ++ added ∧
        ∀ a ∈ added, ∃ g ∈ grants, g.row = a := by
  induction grants generalizing db with
  | nil =>
    obtain rfl := commits_nil.mp h
    exact ⟨db.userAccessAssignments, rfl, [], (List.append_nil _).symm, by simp⟩
  | cons g grants ih =>
    rw [List.flatMap_cons] at h
    obtain ⟨db₁, hfirst, hrest⟩ := commits_append.mp h
    have hg : ∃ userAccessAssignments, { db with userAccessAssignments } = db₁ ∧
        ∃ added, userAccessAssignments.rows = db.userAccessAssignments.rows ++ added ∧
          ∀ a ∈ added, g.row = a := by
      unfold ResolvedGrant.writes at hfirst
      split at hfirst
      · obtain rfl := commits_nil.mp hfirst
        exact ⟨db.userAccessAssignments, rfl, [], (List.append_nil _).symm, by simp⟩
      · obtain ⟨-, rfl⟩ | ⟨t, hinsert, -, rfl⟩ :=
          apply_upsertAssignment.mp (commits_singleton.mp hfirst)
        · exact ⟨db.userAccessAssignments, rfl, [], (List.append_nil _).symm, by simp⟩
        · exact ⟨t, rfl, [g.row], Table.insert_eq_some.mp hinsert, by simp⟩
    obtain ⟨t, rfl, added, hadded, hrow⟩ := hg
    obtain ⟨t', rfl, added', hadded', hrow'⟩ := ih hrest
    refine ⟨t', rfl, added ++ added', ?_, fun a ha => ?_⟩
    · rw [hadded', hadded, List.append_assoc]
    · rcases List.mem_append.mp ha with ha | ha
      · exact ⟨g, List.mem_cons_self, hrow a ha⟩
      · obtain ⟨g', hg', hga⟩ := hrow' a ha
        exact ⟨g', List.mem_cons_of_mem g hg', hga⟩

/-- What a provisioning changes, table by table. -/
structure Changed (db db' : Db) (user : Option Leases.DbWrite) (baseline : List UserPermission)
    (grants : List ResolvedGrant) (plan : Leases.Plan) (joined : Leases.Db) : Prop where
  user : Wrote user.toList db.tenancy joined
  resident : Wrote (Transaction.writes plan) joined db'.tenancy
  permissions : db'.permissions = db.permissions
  roleTemplates : db'.roleTemplates = db.roleTemplates
  overridden : ∀ row ∈ baseline, Overridden { db' with tenancy := joined } row
  assigned : ∃ added,
    db'.userAccessAssignments.rows = db.userAccessAssignments.rows ++ added ∧
      ∀ a ∈ added, ∃ g ∈ grants, g.row = a

theorem commits_provisionWrites {user : Option Leases.DbWrite} {baseline : List UserPermission}
    {plan : Leases.Plan} (h : commits (provisionWrites user baseline grants plan) db = .ok db') :
    ∃ joined, Changed db db' user baseline grants plan joined := by
  obtain ⟨db₃, hwritten, hplan⟩ := commits_append.mp h
  obtain ⟨db₂, hwritten, hgrants⟩ := commits_append.mp hwritten
  obtain ⟨db₁, huser, hbaseline⟩ := commits_append.mp hwritten
  obtain ⟨joined, hjoined, rfl⟩ := commits_tenancy.mp huser
  obtain ⟨userPermissions, rfl, -, hoverridden⟩ := commits_baseline hbaseline
  obtain ⟨userAccessAssignments, rfl, hassigned⟩ := commits_grants hgrants
  obtain ⟨t, hresident, rfl⟩ := commits_tenancy.mp hplan
  refine ⟨joined, hjoined, hresident, rfl, rfl, fun row hrow => ?_, hassigned⟩
  obtain ⟨huser, hpermission, htaken⟩ := hoverridden row hrow
  exact ⟨huser, hpermission, htaken⟩

end Commits

section Again

variable {env env' : Env} {params : OrgUserProvisionParams}
  {ensureResidentBaselinePermissions : Bool} {userId orgId : Id} {db db' : Db}
  {result : ProvisionMutationResult} {g : ResolvedGrant} {grants : List ResolvedGrant}

/-- The same program at another moment: other times and identifiers, the same functions. -/
structure SameFunctions (env env' : Env) : Prop where
  md5 : env'.md5 = env.md5
  localeCompare : env'.localeCompare = env.localeCompare
  toLowerCase : env'.toLowerCase = env.toLowerCase

def duplicateOf (db : Db) (row : UserAccessAssignment) : Option Id :=
  (db.findDuplicateUserAccessAssignment row.userId row.roleTemplateId row.scopeType
    row.scopeId).map (·.id)

theorem resolvedGrant_eq_ok {grant : ProvisionAccessAssignmentDto} :
    resolvedGrant env userId db orgId grant = .ok g ↔
      ∃ roleTemplate,
        Users.findRoleTemplateForProvisioning (env.at db) orgId grant = .ok roleTemplate ∧
          roleTemplate.scopeType = grant.scopeType ∧
            scopeFound db orgId grant.scopeType (scopeIdOf grant.scopeType grant.scopeId) = .ok () ∧
              newAssignment env userId roleTemplate.id grant.scopeType
                  (scopeIdOf grant.scopeType grant.scopeId) = g.row ∧
                roleTemplate.key = g.roleTemplateKey ∧ duplicateOf db g.row = g.duplicate := by
  obtain ⟨row, roleTemplateKey, duplicate⟩ := g
  simp only [resolvedGrant, Outcome.bind_eq_ok, Outcome.throwIf_eq_ok, Outcome.pure_eq_ok,
    exists_const, not_not, Except.ok.injEq, exists_eq_left', ResolvedGrant.mk.injEq, ne_eq]
  refine exists_congr fun roleTemplate => and_congr_right fun _ => and_congr_right fun _ => ?_
  constructor
  · rintro ⟨_, hscope, rfl, hkey, hduplicate⟩
    exact ⟨hscope, rfl, hkey, hduplicate⟩
  · rintro ⟨hscope, rfl, hkey, hduplicate⟩
    exact ⟨(), hscope, rfl, hkey, hduplicate⟩

theorem newAssignment_congr (hmd5 : env'.md5 = env.md5) :
    newAssignment env' = newAssignment env := by
  funext userId roleTemplateId scopeType scopeId
  rw [newAssignment, newAssignment, buildUserAccessAssignmentId, buildUserAccessAssignmentId, hmd5]

/-- A grant is resolved to the same row wherever templates and buildings are the same. -/
theorem resolvedGrant_again {grant : ProvisionAccessAssignmentDto} (hmd5 : env'.md5 = env.md5)
    (htemplates : db'.roleTemplates = db.roleTemplates)
    (hbuildings : db'.tenancy.directory.buildings = db.tenancy.directory.buildings)
    (h : resolvedGrant env userId db orgId grant = .ok g) :
    resolvedGrant env' userId db' orgId grant = .ok { g with duplicate := duplicateOf db' g.row } := by
  obtain ⟨roleTemplate, hfound, hscope, hbuilding, hrow, hkey, -⟩ := resolvedGrant_eq_ok.mp h
  refine resolvedGrant_eq_ok.mpr ⟨roleTemplate, ?_, hscope, ?_, ?_, hkey, rfl⟩
  · rw [← hfound]
    simp only [Users.findRoleTemplateForProvisioning, Env.at, Db.tables, Db.templates, htemplates]
  · rw [← hbuilding]
    simp only [scopeFound, Db.assertBuildingInOrg, hbuildings]
  · rw [newAssignment_congr hmd5]
    exact hrow

theorem findDuplicate_append {added : List UserAccessAssignment} {row : UserAccessAssignment}
    (hadded : db'.userAccessAssignments.rows = db.userAccessAssignments.rows ++ added) :
    duplicateOf db' row = (duplicateOf db row).or ((added.find? fun a =>
      a.userId = row.userId ∧ a.roleTemplateId = row.roleTemplateId ∧
        a.scopeType = row.scopeType ∧ a.scopeId = row.scopeId).map (·.id)) := by
  simp only [duplicateOf, Db.findDuplicateUserAccessAssignment, Table.findFirst, hadded,
    List.find?_append, Option.map_or]

/-- The duplicate that a grant finds afterwards is the assignment that it found or made. -/
theorem duplicateOf_again {added : List UserAccessAssignment}
    (hadded : db'.userAccessAssignments.rows = db.userAccessAssignments.rows ++ added)
    (hmade : ∀ a ∈ added, ∃ g ∈ grants, g.row = a)
    (hbuilt : ∀ g ∈ grants,
      newAssignment env g.row.userId g.row.roleTemplateId g.row.scopeType g.row.scopeId = g.row)
    (hg : g ∈ grants) (hduplicate : duplicateOf db g.row = g.duplicate) :
    (duplicateOf db' g.row).getD g.row.id = g.duplicate.getD g.row.id := by
  rw [findDuplicate_append hadded, hduplicate]
  cases g.duplicate with
  | some id => rfl
  | none =>
    rw [Option.none_or]
    cases hfound : added.find? fun a => a.userId = g.row.userId ∧
        a.roleTemplateId = g.row.roleTemplateId ∧ a.scopeType = g.row.scopeType ∧
          a.scopeId = g.row.scopeId with
    | none => rfl
    | some a =>
      have hmatch := List.find?_some hfound
      obtain ⟨huser, htemplate, hscopeType, hscopeId⟩ := of_decide_eq_true hmatch
      obtain ⟨g', hg', rfl⟩ := hmade a (List.mem_of_find?_eq_some hfound)
      have hrow := hbuilt g' hg'
      rw [huser, htemplate, hscopeType, hscopeId, hbuilt g hg] at hrow
      rw [Option.map_some, Option.getD_some, Option.getD_none, hrow]

theorem upsertAssignment_idle {row : UserAccessAssignment} (h : row.id ∈ assignmentIds db) :
    (DbWrite.upsertAssignment row).apply db = .ok db := by
  refine apply_upsertAssignment.mpr (.inl ⟨?_, rfl⟩)
  obtain ⟨a, ha, hid⟩ := mem_assignmentIds.mp h
  cases hinsert : db.userAccessAssignments.insert row with
  | none => rfl
  | some t => exact absurd hid (Table.fresh_of_insert hinsert ha)

theorem appliedAssignments_again {again : ResolvedGrant → ResolvedGrant}
    (hcompare : env'.localeCompare = env.localeCompare)
    (h : ∀ g ∈ grants, (again g).applied = g.applied) :
    appliedAssignments env' (grants.map again) = appliedAssignments env grants := by
  have hle : ∀ left right : AppliedAssignment, left.le env' right = left.le env right := by
    intro left right
    simp only [AppliedAssignment.le, hcompare]
  have happlied : (grants.map again).map ResolvedGrant.applied =
      grants.map ResolvedGrant.applied := by
    rw [List.map_map]
    exact List.map_congr_left h
  simp only [appliedAssignments, happlied, hle]

theorem resolved_built {grants' : List ProvisionAccessAssignmentDto}
    (h : grants'.mapM (resolvedGrant env userId db orgId) = .ok grants) (hg : g ∈ grants) :
    newAssignment env g.row.userId g.row.roleTemplateId g.row.scopeType g.row.scopeId = g.row ∧
      duplicateOf db g.row = g.duplicate := by
  obtain ⟨grant, -, hresolved⟩ := Outcome.exists_of_mem_mapM h hg
  obtain ⟨roleTemplate, -, -, -, hrow, -, hduplicate⟩ := resolvedGrant_eq_ok.mp hresolved
  refine ⟨?_, hduplicate⟩
  rw [← hrow]
  rfl

/-- The grant as it is resolved once it has been granted. -/
def resolvedAgain (db' : Db) (g : ResolvedGrant) : ResolvedGrant :=
  { g with duplicate := duplicateOf db' g.row }

/-- Nothing is left to write for the overrides, the assignments and the occupancy. -/
theorem provisionWrites_idle {grants' : List ProvisionAccessAssignmentDto}
    {user : Option Leases.DbWrite} {baseline : List UserPermission} {plan plan' : Leases.Plan}
    {joined : Leases.Db} (hchanged : Changed db db' user baseline grants plan joined)
    (hcommitted : commits (provisionWrites user baseline grants plan) db = .ok db')
    (hresolved : grants'.mapM (resolvedGrant env userId db orgId) = .ok grants)
    (hdirectory : db'.tenancy.directory = joined.directory)
    (hplan : Wrote (Transaction.writes plan') db'.tenancy db'.tenancy) :
    commits (provisionWrites none baseline (grants.map (resolvedAgain db')) plan') db' = .ok db' := by
  obtain ⟨added, hadded, -⟩ := hchanged.assigned
  refine commits_append.mpr ⟨db', commits_idle fun w hw => ?_,
    commits_tenancy.mpr ⟨db'.tenancy, hplan, rfl⟩⟩
  rcases List.mem_append.mp hw with hw | hw
  · obtain ⟨row, hrow, rfl⟩ := List.mem_map.mp hw
    obtain ⟨huser, hpermission, htaken⟩ := hchanged.overridden row hrow
    refine Overridden.idle ⟨?_, hpermission, htaken⟩
    rw [Db.hasUser, hdirectory]
    exact huser
  · obtain ⟨_, hagain, hw⟩ := List.mem_flatMap.mp hw
    obtain ⟨g, hg, rfl⟩ := List.mem_map.mp hagain
    cases hduplicate : duplicateOf db' g.row with
    | some id => simp [ResolvedGrant.writes, resolvedAgain, hduplicate] at hw
    | none =>
      simp only [ResolvedGrant.writes, resolvedAgain, hduplicate, List.mem_singleton] at hw
      rw [findDuplicate_append hadded, Option.or_eq_none_iff, (resolved_built hresolved hg).2]
        at hduplicate
      rw [hw]
      exact upsertAssignment_idle (made_mem_commits hcommitted hg hduplicate.1)

theorem provision_again (hsame : SameFunctions env env') (horg : params.orgId ≠ "")
    (hlink : params.mode.ifEmailExists.getD .LINK = .LINK)
    (h : (provision env params ensureResidentBaselinePermissions).run db = .ok result db') :
    (provision env' params ensureResidentBaselinePermissions).run db' = .ok result db' := by
  obtain ⟨user, grants, plan, h⟩ := provision_eq_ok.mp h
  obtain ⟨joined, hchanged⟩ := commits_provisionWrites h.committed
  obtain ⟨hoccupancies, hbuildings, hunits⟩ := Users.targetUser_frame h.target hchanged.user
  have hdirectory :=
    Users.applyResidentGrant_directory h.planned hoccupancies hchanged.resident
  obtain ⟨plan', hplanned, hidle, hgranted⟩ := Users.applyResidentGrant_again (env'.at db')
    h.planned hoccupancies hbuildings hunits hchanged.resident
  obtain ⟨added, hadded, hmade⟩ := hchanged.assigned
  have hresolved : (dedupeAssignments params.accessAssignments).mapM
      (resolvedGrant env' result.userId db' params.orgId) =
        .ok (grants.map (resolvedAgain db')) :=
    Outcome.mapM_map_of_ok (fun grant g hg => resolvedGrant_again hsame.md5
      hchanged.roleTemplates (by rw [hdirectory, hbuildings]) hg) h.resolved
  have hbaseline : baselineOf params ensureResidentBaselinePermissions result.userId db' =
      baselineOf params ensureResidentBaselinePermissions result.userId db := by
    simp only [baselineOf, Messaging.residentPermissions, Db.tables, hchanged.permissions]
  refine provision_eq_ok.mpr ⟨none, _, plan', ?_, hresolved, hplanned, ?_, h.inOrg, ?_, ?_⟩
  · exact Users.targetUser_again horg hlink hsame.toLowerCase h.target hchanged.user
      (by rw [hdirectory])
  · rw [hbaseline]
    exact provisionWrites_idle hchanged h.committed h.resolved hdirectory hidle
  · rw [h.applied]
    refine (appliedAssignments_again hsame.localeCompare fun g hg => ?_).symm
    have hid := duplicateOf_again hadded hmade (fun g hg => (resolved_built h.resolved hg).1) hg
      (resolved_built h.resolved hg).2
    rw [ResolvedGrant.applied, ResolvedGrant.applied, resolvedAgain, hid]
  · rw [h.resident, appliedResident, appliedResident, hgranted]

theorem provision_moves {grant : ResidentGrantDto} (hresident : params.resident = some grant)
    (hmode : grant.mode = some .MOVE)
    (h : (provision env params ensureResidentBaselinePermissions).run db = .ok result db') :
    ∃ unitId o, grant.unitId = some unitId ∧ Landed db'.tenancy result.userId unitId o := by
  obtain ⟨user, grants, plan, h⟩ := provision_eq_ok.mp h
  obtain ⟨joined, hchanged⟩ := commits_provisionWrites h.committed
  have hplanned := h.planned
  rw [hresident] at hplanned
  exact Users.applyResidentGrant_moves hplanned hmode
    (Users.targetUser_frame h.target hchanged.user).1 hchanged.resident

/-- The same provisioning made again succeeds, changes nothing and answers the same, and a
resident who was moved has exactly one active occupancy, of the unit asked for. -/
theorem provision_settles
    (h : (provision env params ensureResidentBaselinePermissions).run db = .ok result db') :
    (params.orgId ≠ "" → params.mode.ifEmailExists.getD .LINK = .LINK →
      ∀ env', SameFunctions env env' →
        (provision env' params ensureResidentBaselinePermissions).run db' = .ok result db') ∧
    ∀ grant, params.resident = some grant → grant.mode = some .MOVE →
      ∃ unitId o, grant.unitId = some unitId ∧ o.unitId = unitId ∧
        ∀ o', (o' ∈ db'.tenancy.occupancies ∧ o'.residentUserId = result.userId ∧
          o'.status = .ACTIVE) ↔ o' = o := by
  constructor
  · intro horg hlink env' hsame
    exact provision_again hsame horg hlink h
  · intro grant hresident hmode
    obtain ⟨unitId, o, hunitId, hlanded⟩ := provision_moves hresident hmode h
    refine ⟨unitId, o, hunitId, hlanded.unit, fun o' => ⟨?_, ?_⟩⟩
    · rintro ⟨hmem, hresident, hactive⟩
      exact hlanded.eq hmem hresident hactive
    · rintro rfl
      exact ⟨hlanded.mem, hlanded.resident, hlanded.active⟩

end Again

section Tower

def twoFlats : Directory := { towerDirectory with
  units := ⟨[⟨"1A", "tower", "1A", none, none⟩, ⟨"1B", "tower", "1B", none, none⟩], by decide⟩ }

def annInFlat : Occupancy where
  id := "stay"
  buildingId := "tower"
  unitId := "1A"
  residentUserId := "ann"
  status := .ACTIVE
  startAt := 0
  endAt := none
  createdAt := 0
  updatedAt := 0

/-- A tower of two flats, one of them Ann's. -/
def annsTower : Db := { tower with
  tenancy := { Leases.Db.start twoFlats with
    occupancies := ⟨⟨[annInFlat], List.nodup_singleton _⟩, by decide⟩ } }

/-- Ann, made a helper, moves to the other flat. -/
def annMoves : OrgUserProvisionParams where
  orgId := "org"
  identity := ⟨"ann@example.com", none, none, none, none⟩
  accessAssignments := [⟨none, some "helper", .ORG, none⟩]
  resident := some ⟨"tower", some "1B", some .MOVE⟩
  mode := ⟨none, none⟩
  allowGeneratedPasswordWithoutInvite := false

theorem annMoves_settles : ∃ result db',
    (provision towerEnv annMoves true).run annsTower = .ok result db' ∧
      (provision { towerEnv with now := 2 } annMoves true).run db' = .ok result db' ∧
        ∃ o, o.unitId = "1B" ∧ ∀ o', (o' ∈ db'.tenancy.occupancies ∧
          o'.residentUserId = result.userId ∧ o'.status = .ACTIVE) ↔ o' = o := by
  have hreturned : Leases.returned ((provision towerEnv annMoves true).run annsTower) = true := by
    decide
  cases hrun : (provision towerEnv annMoves true).run annsTower with
  | error e db => simp [hrun, Leases.returned] at hreturned
  | ok result db' =>
    obtain ⟨hagain, hmoves⟩ := provision_settles hrun
    obtain ⟨unitId, o, hunitId, hunit, hone⟩ := hmoves _ rfl rfl
    obtain rfl := Option.some.inj hunitId
    exact ⟨result, db', rfl, hagain (by decide) rfl _ ⟨rfl, rfl, rfl⟩, o, hunit, hone⟩

end Tower

end Towerdesk.Access
