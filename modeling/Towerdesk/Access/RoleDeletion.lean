import Towerdesk.Access.UserAccess

/-!
# Deleting a role while it is being assigned

A deletion counts the assignments of a template and then deletes the template with whatever
is assigned by then. Calls take turns step by step; an account is kept of the assignments
that were taken away on purpose, so that an assignment is either there or accounted for.
-/

namespace Towerdesk.Access

open Script (query throwIf UpTo Always Assured advance upTo_bind always_bind always_query
  always_atomic always_collect assured_bind assured_true assured_query assured_stable
  assured_atomic assured_frame assured_collect)
open Interleaving (Config AtStep Coherent coherent_next)
open Transaction (final)
open Users (OrgUserProvisionParams)

inductive RoleCall
  | deleteRole (actorUserId orgId roleTemplateId : Id)
  | createAccessAssignment (env : Env) (userId orgId : Id) (dto : CreateAccessAssignmentDto)
  | provisionOrgUser (env : Env) (params : OrgUserProvisionParams)
    (ensureResidentBaselinePermissions : Bool)
  | deleteAccessAssignment (userId orgId assignmentId : Id)

/-- The call, returning the assignments it reports. -/
def callScript : RoleCall → Call (List Id)
  | .deleteRole actorUserId orgId roleTemplateId => do
    delete actorUserId orgId roleTemplateId
    return []
  | .createAccessAssignment env userId orgId dto => do
    let created ← createAccessAssignment env userId orgId dto
    return [created.id]
  | .provisionOrgUser env params ensure => do
    let (_, applied) ← provisionOrgUser env params ensure
    return (applied.orgAccess ++ applied.buildingAccess).map (·.assignmentId)
  | .deleteAccessAssignment userId orgId assignmentId => do
    deleteAccessAssignment userId orgId assignmentId
    return []

def RoleCall.revokes : RoleCall → Bool
  | .deleteAccessAssignment _ _ _ => true
  | _ => false

def assignmentIds (db : Db) : List Id := db.userAccessAssignments.rows.map (·.id)

/-- The assignments that a `deleteAccessAssignment` call has removed and that are still gone. -/
def record (c : RoleCall) (before after : Db) (revoked : List Id) : List Id :=
  (revoked ++ if c.revokes then assignmentIds before else []).filter (· ∉ assignmentIds after)

section Machine

variable {π : Type} (calls : π → RoleCall)

abbrev State (π : Type) := Config π (Call (List Id)) (Db × List Id)

def turns : Interleaving.Machine π Unit (Call (List Id)) (Db × List Id) :=
  Script.watched fun p => record (calls p)

def atStart (db : Db) : State π := ⟨(db, []), fun p => callScript (calls p)⟩

/-- What is left of a deletion after its count. -/
def deletion (roleTemplateId : Id) : Call (List Id) := do
  deleteTemplate roleTemplateId
  return []

/-- The count of a deletion is still zero when it comes to delete the template. -/
def DeletesUnassigned : π → Unit → Call (List Id) → Db × List Id → Prop :=
  fun p _ c t => ∀ actorUserId orgId roleTemplateId,
    calls p = .deleteRole actorUserId orgId roleTemplateId → c = deletion roleTemplateId →
      t.1.hasTemplate roleTemplateId = true →
        t.1.countUsersAssignedToRoleTemplate roleTemplateId = 0

/-- The assignment exists, or it was removed as such. -/
def Accounted (t : Db × List Id) (id : Id) : Prop := id ∈ assignmentIds t.1 ∨ id ∈ t.2

def Kept (t t' : Db × List Id) : Prop := ∀ id, Accounted t id → Accounted t' id

theorem Kept.trans {t t' t'' : Db × List Id} (h : Kept t t') (h' : Kept t' t'') : Kept t t'' :=
  fun id hid => h' id (h id hid)

end Machine

section Effects

/-- A step that takes no assignment away. -/
def Grows (effect : Db → Db) : Prop :=
  ∀ db id, id ∈ assignmentIds db → id ∈ assignmentIds (effect db)

theorem grows_id : Grows id := fun _ _ h => h

theorem mem_assignmentIds {db : Db} {id : Id} :
    id ∈ assignmentIds db ↔ ∃ a ∈ db.userAccessAssignments, a.id = id := List.mem_map

/-- The writes that touch no assignment, or add one. -/
def DbWrite.Adds : DbWrite → Prop
  | .deleteRoleTemplate _ => False
  | .deleteAssignment _ => False
  | _ => True

theorem mem_assignmentIds_apply {w : DbWrite} {db db' : Db} {id : Id} (hw : w.Adds)
    (happly : w.apply db = .ok db') (h : id ∈ assignmentIds db) : id ∈ assignmentIds db' := by
  cases w with
  | createRoleTemplate r =>
    obtain ⟨t, -, rfl⟩ := apply_createRoleTemplate.mp happly
    exact h
  | updateRoleTemplate id p =>
    obtain ⟨t, -, -, rfl⟩ := apply_updateRoleTemplate.mp happly
    exact h
  | deleteRoleTemplate id => exact hw.elim
  | clearRolePermissions roleTemplateId => exact Except.ok.inj happly ▸ h
  | addRolePermission row =>
    obtain ⟨-, rfl⟩ := apply_addRolePermission.mp happly
    exact h
  | clearUserPermissions userId => exact Except.ok.inj happly ▸ h
  | addUserPermission row =>
    obtain ⟨-, rfl⟩ := apply_addUserPermission.mp happly
    exact h
  | upsertAssignment row =>
    obtain ⟨-, rfl⟩ | ⟨t, hinsert, -, rfl⟩ := apply_upsertAssignment.mp happly
    · exact h
    · obtain ⟨a, ha, rfl⟩ := mem_assignmentIds.mp h
      exact mem_assignmentIds.mpr ⟨a, (Table.mem_insert hinsert).mpr (.inl ha), rfl⟩
  | deleteAssignment id => exact hw.elim
  | tenancy w =>
    obtain ⟨t, -, rfl⟩ := apply_tenancy.mp happly
    exact h

theorem upserted_mem {row : UserAccessAssignment} {db db' : Db}
    (happly : (DbWrite.upsertAssignment row).apply db = .ok db') :
    row.id ∈ assignmentIds db' := by
  obtain ⟨hnone, rfl⟩ | ⟨t, hinsert, -, rfl⟩ := apply_upsertAssignment.mp happly
  · by_contra hfresh
    obtain ⟨t, ht⟩ := Table.exists_insert.mpr fun b hb hkey =>
      hfresh (mem_assignmentIds.mpr ⟨b, hb, hkey⟩)
    rw [hnone] at ht
    cases ht
  · exact mem_assignmentIds.mpr ⟨row, (Table.mem_insert hinsert).mpr (.inr rfl), rfl⟩

theorem mem_assignmentIds_commits {ws : List DbWrite} {db db' : Db} {id : Id}
    (hws : ∀ w ∈ ws, w.Adds) (hcommit : commits ws db = .ok db') (h : id ∈ assignmentIds db) :
    id ∈ assignmentIds db' := by
  refine Transaction.commit_rel (R := fun a b => id ∈ assignmentIds a → id ∈ assignmentIds b)
    (fun _ h => h) (fun hab hbc ha => hbc (hab ha)) (fun w hw a b happly => ?_) hcommit h
  rw [Transaction.writes_map_write] at hw
  exact mem_assignmentIds_apply (hws w hw) happly

theorem upserted_mem_commits {ws : List DbWrite} {row : UserAccessAssignment} {db db' : Db}
    (hws : ∀ w ∈ ws, w.Adds) (hrow : .upsertAssignment row ∈ ws)
    (hcommit : commits ws db = .ok db') : row.id ∈ assignmentIds db' := by
  obtain ⟨before, after, rfl⟩ := List.append_of_mem hrow
  rw [commits, List.map_append, List.map_cons, Transaction.commit_append] at hcommit
  obtain ⟨db₁, -, hrest⟩ := hcommit
  obtain ⟨db₂, hupsert, hafter⟩ := Transaction.commit_write.mp hrest
  refine mem_assignmentIds_commits (fun w hw => hws w ?_) hafter (upserted_mem hupsert)
  exact List.mem_append_right before (List.mem_cons_of_mem _ hw)

theorem commit_grows {ws : List DbWrite} (hws : ∀ w ∈ ws, w.Adds) : (commit ws).Always Grows := by
  refine always_atomic fun db id h => ?_
  change id ∈ assignmentIds
    (final (Transaction.transaction DbWrite.apply raise (fun _ => .ok (ws.map .write)) db))
  obtain ⟨e, -, hrun⟩ | ⟨db', hcommit, hrun⟩ := commit_cases ws db
  · rwa [hrun]
  · rw [hrun]
    exact mem_assignmentIds_commits hws hcommit h

theorem query_grows {α : Type} (f : Db → Result α) : (query f).Always Grows :=
  always_query grows_id f

theorem assertScope_grows (orgId : Id) (scopeType : AccessScopeType) (scopeId : Option Id) :
    (assertScope orgId scopeType scopeId).Always Grows := by
  cases scopeType with
  | ORG => trivial
  | BUILDING =>
    refine always_bind ?_ fun _ => query_grows _
    trivial

theorem createAccessAssignment_grows (env : Env) (userId orgId : Id)
    (dto : CreateAccessAssignmentDto) :
    (createAccessAssignment env userId orgId dto).Always Grows := by
  refine always_bind (query_grows _) fun _ => always_bind (query_grows _) fun roleTemplate => ?_
  refine always_bind trivial fun _ => always_bind (assertScope_grows _ _ _) fun _ => ?_
  refine always_bind (query_grows _) fun duplicate => always_bind trivial fun _ => ?_
  refine always_bind (commit_grows fun w hw => ?_) fun _ => query_grows _
  obtain rfl := List.mem_singleton.mp hw
  trivial

theorem resolveGrant_grows (env : Env) (orgId userId : Id)
    (grant : Users.ProvisionAccessAssignmentDto) :
    (resolveGrant env orgId userId grant).Always Grows := by
  refine always_bind (query_grows _) fun roleTemplate => always_bind trivial fun _ => ?_
  refine always_bind (assertScope_grows _ _ _) fun _ => always_bind (query_grows _) fun _ => ?_
  trivial

theorem baselinePermissions_grows (ensure : Bool) (params : OrgUserProvisionParams)
    (userId : Id) : (baselinePermissions ensure params userId).Always Grows := by
  unfold baselinePermissions
  split_ifs
  · exact query_grows _
  · trivial

def provisionWrites (user : Option Leases.DbWrite) (baseline : List UserPermission)
    (grants : List ResolvedGrant) (resident : Leases.Plan) : List DbWrite :=
  user.toList.map .tenancy ++ baseline.map .addUserPermission ++
    grants.flatMap ResolvedGrant.writes ++ tenancyWrites resident

theorem provisionWrites_adds {user : Option Leases.DbWrite} {baseline : List UserPermission}
    {grants : List ResolvedGrant} {resident : Leases.Plan} :
    ∀ w ∈ provisionWrites user baseline grants resident, w.Adds := by
  intro w hw
  simp only [provisionWrites, List.mem_append, List.mem_map, List.mem_flatMap,
    tenancyWrites] at hw
  obtain ((⟨w, -, rfl⟩ | ⟨row, -, rfl⟩) | ⟨grant, -, hw⟩) | ⟨w, -, rfl⟩ := hw
  · trivial
  · trivial
  · unfold ResolvedGrant.writes at hw
    split at hw
    · cases hw
    · obtain rfl := List.mem_singleton.mp hw
      trivial
  · trivial

theorem provisionOrgUser_grows (env : Env) (params : OrgUserProvisionParams) (ensure : Bool) :
    (provisionOrgUser env params ensure).Always Grows := by
  refine always_bind (query_grows _) fun target => ?_
  refine always_bind (baselinePermissions_grows ensure params target.1) fun baseline => ?_
  refine always_bind (always_collect (resolveGrant_grows env params.orgId target.1) _)
    fun grants => always_bind (query_grows _) fun resident => ?_
  refine always_bind (commit_grows provisionWrites_adds) fun _ => ?_
  exact always_bind (query_grows _) fun _ => trivial

/-- The call has nothing left to do but delete the template. -/
def Deletes (c : RoleCall) (d : Call (List Id)) : Prop :=
  ∃ actorUserId orgId roleTemplateId,
    c = .deleteRole actorUserId orgId roleTemplateId ∧ d = deletion roleTemplateId

theorem callScript_upTo {c : RoleCall} (h : c.revokes = false) :
    (callScript c).UpTo Grows (Deletes c) := by
  cases c with
  | deleteRole actorUserId orgId roleTemplateId =>
    simp only [callScript, delete, Script.bind_bind]
    refine upTo_bind (query_grows _) fun _ => upTo_bind (query_grows _) fun roleTemplate => ?_
    refine upTo_bind trivial fun _ => upTo_bind (query_grows _) fun assignedUsers => ?_
    exact upTo_bind trivial fun _ => .inl ⟨actorUserId, orgId, roleTemplateId, rfl, rfl⟩
  | createAccessAssignment env userId orgId dto =>
    exact upTo_bind (createAccessAssignment_grows env userId orgId dto) fun _ => trivial
  | provisionOrgUser env params ensure =>
    exact upTo_bind (provisionOrgUser_grows env params ensure) fun _ => trivial
  | deleteAccessAssignment userId orgId assignmentId => cases h

theorem advance_deletion (roleTemplateId : Id) (db : Db) :
    (∃ r, (advance (deletion roleTemplateId) db).1 = .done r) ∧
      (advance (deletion roleTemplateId) db).2 =
        if db.hasTemplate roleTemplateId then db.deleteRoleTemplate roleTemplateId else db := by
  obtain ⟨e, hcommit, hrun⟩ | ⟨db', hcommit, hrun⟩ :=
    commit_cases [.deleteRoleTemplate roleTemplateId] db
  · have hmissing : ¬ db.hasTemplate roleTemplateId = true := fun htemplate => by
      have hdone := commits_singleton.mpr (apply_deleteRoleTemplate.mpr ⟨htemplate, rfl⟩)
      rw [hcommit] at hdone
      cases hdone
    refine ⟨⟨.error e, ?_⟩, ?_⟩
    · change (Script.done (Script.outcome _) >>= _) = _
      rw [hrun]
      rfl
    · rw [if_neg hmissing]
      change final _ = _
      rw [hrun]
      rfl
  · obtain ⟨htemplate, rfl⟩ := apply_deleteRoleTemplate.mp (commits_singleton.mp hcommit)
    refine ⟨⟨.ok [], ?_⟩, ?_⟩
    · change (Script.done (Script.outcome _) >>= _) = _
      rw [hrun]
      rfl
    · rw [if_pos htemplate]
      change final _ = _
      rw [hrun]
      rfl

end Effects

section Turns

variable {π : Type} (calls : π → RoleCall)

theorem kept_record {c : RoleCall} {before after : Db} {revoked : List Id}
    (h : c.revokes = true ∨ ∀ id ∈ assignmentIds before, id ∈ assignmentIds after) :
    Kept (before, revoked) (after, record c before after revoked) := by
  intro id hid
  by_cases hafter : id ∈ assignmentIds after
  · exact .inl hafter
  · refine .inr (List.mem_filter.mpr ⟨?_, decide_eq_true hafter⟩)
    obtain hbefore | hrevoked := hid
    · obtain hrevokes | hgrows := h
      · rw [if_pos hrevokes]
        exact List.mem_append_right revoked hbefore
      · exact absurd (hgrows id hbefore) hafter
    · exact List.mem_append_left _ hrevoked

theorem assignmentIds_deleteRoleTemplate {db : Db} {roleTemplateId : Id} :
    (∀ id ∈ assignmentIds db, id ∈ assignmentIds (db.deleteRoleTemplate roleTemplateId)) ↔
      db.countUsersAssignedToRoleTemplate roleTemplateId = 0 := by
  simp only [Db.countUsersAssignedToRoleTemplate, List.length_eq_zero_iff, List.filter_eq_nil_iff,
    decide_eq_true_eq]
  constructor
  · intro h a ha htemplate
    obtain ⟨b, hb, hkey⟩ := mem_assignmentIds.mp (h a.id (mem_assignmentIds.mpr ⟨a, ha, rfl⟩))
    obtain ⟨hb, hother⟩ := List.mem_filter.mp hb
    rw [Table.eq_of_key_eq hb ha hkey] at hother
    simp [htemplate] at hother
  · intro h id hid
    obtain ⟨a, ha, rfl⟩ := mem_assignmentIds.mp hid
    refine mem_assignmentIds.mpr ⟨a, List.mem_filter.mpr ⟨ha, ?_⟩, rfl⟩
    simpa using h a ha

/-- What is known of a call while it runs. -/
def Sound (p : π) (c : Call (List Id)) (t : Db × List Id) : Prop :=
  ((calls p).revokes = false → c.UpTo Grows (Deletes (calls p))) ∧
    c.Assured Prod.fst Kept (fun ids t => ∀ id ∈ ids, Accounted t id) t

variable {calls}

theorem kept_turn {p : π} {c : Call (List Id)} {t : Db × List Id} (hsound : Sound calls p c t)
    (hguard : DeletesUnassigned calls p () c t) :
    Kept t ((advance c t.1).2, record (calls p) t.1 (advance c t.1).2 t.2) := by
  refine kept_record ?_
  cases hrevokes : (calls p).revokes with
  | true => exact .inl rfl
  | false =>
    refine .inr ?_
    have hupTo := hsound.1 hrevokes
    cases c with
    | done r => exact fun id h => h
    | step effect next =>
      obtain ⟨actorUserId, orgId, roleTemplateId, hcall, hdeletion⟩ | ⟨hgrows, -⟩ := hupTo
      · rw [hdeletion, (advance_deletion roleTemplateId t.1).2]
        split_ifs with htemplate
        · exact assignmentIds_deleteRoleTemplate.mpr
            (hguard actorUserId orgId roleTemplateId hcall hdeletion htemplate)
        · exact fun id h => h
      · exact hgrows t.1

theorem sound_turn {p : π} {c : Call (List Id)} {t : Db × List Id} (hsound : Sound calls p c t)
    (hguard : DeletesUnassigned calls p () c t) :
    Sound calls p (advance c t.1).1
      ((advance c t.1).2, record (calls p) t.1 (advance c t.1).2 t.2) := by
  have hkept := kept_turn hsound hguard
  obtain ⟨hupTo, hassured⟩ := hsound
  refine ⟨fun hrevokes => ?_, ?_⟩
  · cases c with
    | done r => trivial
    | step effect next =>
      obtain ⟨_, _, roleTemplateId, -, hdeletion⟩ | ⟨-, hnext⟩ := hupTo hrevokes
      · obtain ⟨r, hr⟩ := (advance_deletion roleTemplateId t.1).1
        rw [hdeletion, hr]
        trivial
      · exact hnext t.1
  · cases c with
    | done r =>
      exact assured_stable Kept.trans (fun _ _ _ h hQ id hid => h id (hQ id hid)) hkept hassured
    | step effect next => exact hassured t _ (fun _ h => h) hkept rfl

end Turns

section Reports

/-- A call whose result, whatever the others do meanwhile, satisfies `Q`. -/
abbrev Reports {α : Type} (Q : α → Db × List Id → Prop) (c : Call α) : Prop :=
  ∀ t, c.Assured Prod.fst Kept Q t

theorem createAccessAssignment_reports (env : Env) (userId orgId : Id)
    (dto : CreateAccessAssignmentDto) :
    Reports (fun created t => Accounted t created.id)
      (createAccessAssignment env userId orgId dto) := by
  intro t
  refine assured_bind (assured_true _ t) fun _ t _ => ?_
  refine assured_bind (assured_true _ t) fun roleTemplate t _ => ?_
  refine assured_bind (assured_true _ t) fun _ t _ => ?_
  refine assured_bind (assured_true _ t) fun _ t _ => ?_
  refine assured_bind (assured_true _ t) fun duplicate t _ => ?_
  refine assured_bind (assured_true _ t) fun _ t _ => ?_
  refine assured_bind (assured_true _ t) fun _ t _ => ?_
  refine assured_query fun t' t'' created _ _ hview hcreated => ?_
  obtain ⟨found, hfound, rfl⟩ := Outcome.map_eq_ok.mp hcreated
  obtain ⟨a, ha, hrow⟩ := Option.bind_eq_some_iff.mp (Outcome.orThrow_eq_ok.mp hfound)
  obtain ⟨r, -, rfl⟩ := Option.map_eq_some_iff.mp hrow
  refine .inl (mem_assignmentIds.mpr ⟨a, ?_, rfl⟩)
  rw [show t''.1 = t'.1 from hview]
  exact (Table.findUnique_eq_some.mp ha).1

theorem resolveGrant_reports (env : Env) (orgId userId : Id)
    (grant : Users.ProvisionAccessAssignmentDto) :
    Reports (fun g t => ∀ id, g.duplicate = some id → Accounted t id)
      (resolveGrant env orgId userId grant) := by
  intro t
  refine assured_bind (assured_true _ t) fun roleTemplate t _ => ?_
  refine assured_bind (assured_true _ t) fun _ t _ => ?_
  refine assured_bind (assured_true _ t) fun _ t _ => ?_
  refine assured_bind (Q := fun duplicate t =>
    ∀ a : UserAccessAssignment, duplicate = some a → Accounted t a.id) ?_ fun duplicate t h => ?_
  · refine assured_query fun t' t'' duplicate _ _ hview hduplicate a ha => ?_
    obtain rfl := Except.ok.inj hduplicate
    refine .inl (mem_assignmentIds.mpr ⟨a, ?_, rfl⟩)
    rw [show t''.1 = t'.1 from hview]
    exact (Table.findFirst_some ha).1
  · intro id hid
    obtain ⟨a, ha, rfl⟩ := Option.map_eq_some_iff.mp hid
    exact h a ha

theorem made_mem_commits {user : Option Leases.DbWrite} {baseline : List UserPermission}
    {grants : List ResolvedGrant} {resident : Leases.Plan} {db db' : Db} {g : ResolvedGrant}
    (hcommit : commits (provisionWrites user baseline grants resident) db = .ok db')
    (hg : g ∈ grants) (hduplicate : g.duplicate = none) : g.row.id ∈ assignmentIds db' := by
  refine upserted_mem_commits provisionWrites_adds ?_ hcommit
  have hwrites : g.writes = [.upsertAssignment g.row] := by
    rw [ResolvedGrant.writes, hduplicate]
  refine List.mem_append_left _ (List.mem_append_right _ (List.mem_flatMap.mpr ⟨g, hg, ?_⟩))
  rw [hwrites]
  exact List.mem_singleton_self _

theorem applied_accounted {user : Option Leases.DbWrite} {baseline : List UserPermission}
    {grants : List ResolvedGrant} {resident : Leases.Plan} {db db' : Db} {revoked : List Id}
    (hcommit : commits (provisionWrites user baseline grants resident) db = .ok db')
    (h : ∀ g ∈ grants, ∀ id, g.duplicate = some id → Accounted (db', revoked) id) :
    ∀ g ∈ grants, Accounted (db', revoked) g.applied.assignmentId := by
  intro g hg
  cases hduplicate : g.duplicate with
  | some id =>
    rw [ResolvedGrant.applied, hduplicate]
    exact h g hg id hduplicate
  | none =>
    rw [ResolvedGrant.applied, hduplicate]
    exact .inl (made_mem_commits hcommit hg hduplicate)

theorem mem_applied {env : Env} {grants : List ResolvedGrant} {a : AppliedAssignment}
    (h : a ∈ (appliedAssignments env grants).orgAccess ++
      (appliedAssignments env grants).buildingAccess) : ∃ g ∈ grants, g.applied = a := by
  have hsorted : a ∈ (grants.map ResolvedGrant.applied).insertionSort fun left right =>
      left.le env right = true := by
    obtain horg | hbuilding := List.mem_append.mp h
    · exact (List.mem_filter.mp horg).1
    · exact (List.mem_filter.mp hbuilding).1
  exact List.mem_map.mp ((List.perm_insertionSort _ _).mem_iff.mp hsorted)

theorem provisionOrgUser_reports (env : Env) (params : OrgUserProvisionParams) (ensure : Bool) :
    Reports (fun result t => ∀ a ∈ result.2.orgAccess ++ result.2.buildingAccess,
      Accounted t a.assignmentId) (provisionOrgUser env params ensure) := by
  intro t
  have hknown (grants : List ResolvedGrant) {t t' : Db × List Id} (hkept : Kept t t')
      (h : ∀ g ∈ grants, ∀ id, g.duplicate = some id → Accounted t id) :
      ∀ g ∈ grants, ∀ id, g.duplicate = some id → Accounted t' id :=
    fun g hg id hid => hkept id (h g hg id hid)
  have happlied (grants : List ResolvedGrant) {t t' : Db × List Id} (hkept : Kept t t')
      (h : ∀ g ∈ grants, Accounted t g.applied.assignmentId) :
      ∀ g ∈ grants, Accounted t' g.applied.assignmentId := fun g hg => hkept _ (h g hg)
  refine assured_bind (assured_true _ t) fun target t _ => ?_
  refine assured_bind (assured_true _ t) fun baseline t _ => ?_
  refine assured_bind (assured_collect (fun _ _ _ hkept h id hid => hkept id (h id hid))
    (resolveGrant_reports env params.orgId target.1) _ t) fun grants t hgrants => ?_
  refine assured_bind (assured_frame (hknown grants) hgrants (assured_true _ t))
    fun resident t hgrants => ?_
  refine assured_bind (Q := fun _ t => ∀ g ∈ grants, Accounted t g.applied.assignmentId)
    (assured_atomic fun t' t'' _ ht ht' hview hdone => ?_) fun _ t hgrants => ?_
  · obtain ⟨e, -, hrun⟩ | ⟨db', hcommit, hrun⟩ := commit_cases _ t'.1
    · rw [hrun] at hdone
      cases hdone
    · rw [hrun] at hview
      obtain ⟨db'', revoked⟩ := t''
      obtain rfl : db'' = db' := hview
      exact applied_accounted hcommit (hknown grants (ht.trans ht') hgrants.2)
  · refine assured_bind (assured_frame (happlied grants) hgrants (assured_true _ t))
      fun _ t hgrants a ha => ?_
    obtain ⟨g, hg, rfl⟩ := mem_applied ha
    exact hgrants.2 g hg

theorem callScript_reports (c : RoleCall) :
    Reports (fun ids t => ∀ id ∈ ids, Accounted t id) (callScript c) := by
  intro t
  cases c with
  | deleteRole actorUserId orgId roleTemplateId =>
    exact assured_bind (assured_true _ t) fun _ _ _ => nofun
  | createAccessAssignment env userId orgId dto =>
    refine assured_bind (createAccessAssignment_reports env userId orgId dto t)
      fun created t hcreated id hid => ?_
    obtain rfl := List.mem_singleton.mp hid
    exact hcreated
  | provisionOrgUser env params ensure =>
    refine assured_bind (provisionOrgUser_reports env params ensure t)
      fun result t happlied id hid => ?_
    obtain ⟨a, ha, rfl⟩ := List.mem_map.mp hid
    exact happlied a ha
  | deleteAccessAssignment userId orgId assignmentId =>
    exact assured_bind (assured_true _ t) fun _ _ _ => nofun

end Reports

section Whole

variable {π : Type} [DecidableEq π] {calls : π → RoleCall} {db : Db}

/-- Along the run nothing that was assigned, and nothing that was reported as assigned, goes
missing. -/
def NoneDropped (calls : π → RoleCall) (db : Db) (ls : List (π × Unit)) : Prop :=
  (∀ ms ns, ms ++ ns <+: ls →
    Kept (Run.exec (Interleaving.next (turns calls)) (atStart calls db) ms).shared
      (Run.exec (Interleaving.next (turns calls)) (atStart calls db) (ms ++ ns)).shared) ∧
  ∀ ms, ms <+: ls → ∀ p ids,
    (Run.exec (Interleaving.next (turns calls)) (atStart calls db) ms).locals p =
        .done (.ok ids) →
      ∀ id ∈ ids, Accounted
        (Run.exec (Interleaving.next (turns calls)) (atStart calls db) ms).shared id

abbrev CoherentTurns (calls : π → RoleCall) : State π → Prop :=
  Coherent (fun _ => True) (Sound calls)

omit [DecidableEq π] in
theorem coherent_atStart : CoherentTurns calls (atStart calls db) :=
  ⟨trivial, fun p => ⟨callScript_upTo, callScript_reports (calls p) _⟩⟩

theorem coherent_turn {m : π × Unit} {c : State π} (hc : CoherentTurns calls c)
    (hm : AtStep (DeletesUnassigned calls) m c) :
    CoherentTurns calls (Interleaving.next (turns calls) m c) := by
  have hp := hc.locals m.1
  refine coherent_next ⟨trivial, sound_turn hp hm⟩ fun q _ => ?_
  obtain ⟨hupTo, hassured⟩ := hc.locals q
  exact ⟨hupTo, assured_stable Kept.trans (fun _ _ _ h hQ id hid => h id (hQ id hid))
    (kept_turn hp hm) hassured⟩

theorem kept_next {m : π × Unit} {c : State π} (hc : CoherentTurns calls c)
    (hm : AtStep (DeletesUnassigned calls) m c) :
    Kept c.shared (Interleaving.next (turns calls) m c).shared :=
  kept_turn (hc.locals m.1) hm

theorem noneDropped_of_along {ls : List (π × Unit)}
    (h : Run.Along (Interleaving.next (turns calls)) (AtStep (DeletesUnassigned calls))
      (atStart calls db) ls) : NoneDropped calls db ls := by
  have hcoherent (ms : List (π × Unit))
      (halong : Run.Along (Interleaving.next (turns calls)) (AtStep (DeletesUnassigned calls))
        (atStart calls db) ms) :
      CoherentTurns calls (Run.exec (Interleaving.next (turns calls)) (atStart calls db) ms) :=
    Run.exec_inv_along (fun _ _ => coherent_turn) coherent_atStart halong
  refine ⟨?_, ?_⟩
  · rintro ms ns ⟨rest, rfl⟩
    obtain ⟨hms, hns⟩ := Run.along_append.mp (Run.along_append.mp h).1
    rw [Run.exec_append]
    exact Run.exec_rel_along (I := CoherentTurns calls)
      (R := fun c c' => Kept c.shared c'.shared) (fun _ _ hid => hid) Kept.trans
      (fun _ _ => coherent_turn) (fun _ _ => kept_next) (hcoherent ms hms) hns
  · rintro ms ⟨rest, rfl⟩ p ids hids
    have hsound := ((hcoherent ms (Run.along_append.mp h).1).locals p).2
    rw [hids] at hsound
    exact hsound

theorem account_apart (ms : List (π × Unit)) :
    ∀ id ∈ (Run.exec (Interleaving.next (turns calls)) (atStart calls db) ms).shared.2,
      id ∉ assignmentIds
        (Run.exec (Interleaving.next (turns calls)) (atStart calls db) ms).shared.1 := by
  refine Run.exec_inv (I := fun c : State π => ∀ id ∈ c.shared.2, id ∉ assignmentIds c.shared.1)
    (fun m c _ id hid => ?_) ms nofun
  exact of_decide_eq_true (List.mem_filter.mp hid).2

theorem along_of_noneDropped {ls : List (π × Unit)} (h : NoneDropped calls db ls) :
    Run.Along (Interleaving.next (turns calls)) (AtStep (DeletesUnassigned calls))
      (atStart calls db) ls := by
  refine Run.along_of_split fun ms m ns hls => ?_
  intro actorUserId orgId roleTemplateId hcall hdeletion htemplate
  have hprefix : ms ++ [m] <+: ls :=
    ⟨ns, by rw [hls, List.append_assoc, List.singleton_append]⟩
  have hkept := h.1 ms [m] hprefix
  have hapart := @account_apart π _ calls db ms
  rw [Run.exec_concat] at hkept
  generalize Run.exec (Interleaving.next (turns calls)) (atStart calls db) ms = c at *
  refine assignmentIds_deleteRoleTemplate.mp fun id hid => ?_
  have hafter : (Interleaving.next (turns calls) m c).shared =
      (c.shared.1.deleteRoleTemplate roleTemplateId,
        record (calls m.1) c.shared.1 (c.shared.1.deleteRoleTemplate roleTemplateId)
          c.shared.2) := by
    have heffect := (advance_deletion roleTemplateId c.shared.1).2
    rw [if_pos htemplate, ← hdeletion] at heffect
    change ((advance (c.locals m.1) c.shared.1).2, record (calls m.1) c.shared.1
      (advance (c.locals m.1) c.shared.1).2 c.shared.2) = _
    rw [heffect]
  obtain hthere | haccount := hafter ▸ hkept id (.inl hid)
  · exact hthere
  · rw [hcall] at haccount
    obtain ⟨hrevoked, -⟩ := List.mem_filter.mp haccount
    have hrevoked : id ∈ c.shared.2 := by simpa [RoleCall.revokes] using hrevoked
    exact absurd hid (hapart id hrevoked)

end Whole

section Overlap

/-- One call deletes the template that another assigns to Ann. -/
def overlapping : Bool → RoleCall
  | true => .deleteRole "admin" "org" "helpers"
  | false => .createAccessAssignment towerEnv "ann" "org" ⟨"helpers", .ORG, none⟩

/-- The deletion counts, the assignment is committed and reported, the deletion deletes. -/
def assignedAfterCount : List (Bool × Unit) :=
  List.replicate 3 (true, ()) ++ List.replicate 5 (false, ()) ++ [(true, ())]

theorem deleted_role_drops_reported_assignment :
    ¬ ∀ (calls : Bool → RoleCall) (db : Db) (ls : List (Bool × Unit)),
      NoneDropped calls db ls := by
  intro h
  have hreported := (h overlapping tower assignedAfterCount).2 assignedAfterCount
    (List.prefix_refl _) false ["ann:helpers:ORG:"] (by rfl) "ann:helpers:ORG:"
    (List.mem_singleton_self _)
  have hmissing : ¬ Accounted (Run.exec (Interleaving.next (turns overlapping))
      (atStart overlapping tower) assignedAfterCount).shared "ann:helpers:ORG:" := by
    unfold Accounted
    decide
  exact hmissing hreported

end Overlap

theorem role_deletions_drop_nothing_iff {π : Type} [DecidableEq π] (calls : π → RoleCall)
    (db : Db) (ls : List (π × Unit)) :
    NoneDropped calls db ls ↔
      Run.Along (Interleaving.next (turns calls)) (AtStep (DeletesUnassigned calls))
        (atStart calls db) ls :=
  ⟨along_of_noneDropped, noneDropped_of_along⟩

end Towerdesk.Access
