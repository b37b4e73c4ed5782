import Towerdesk.Maintenance.BuildingCalls
import Towerdesk.Maintenance.Scene

/-!
# Staff are confined to their own requests

Whoever is assigned to a building without the permission to assign requests reaches, by any
call at the building, only requests assigned to him. The override of an owner's approval goes
by a permission of its own.
-/

namespace Towerdesk.Maintenance

section Frame

/-- The rows that belong to the request are the same. -/
structure SameRows (db db' : Db) (requestId : Id) : Prop where
  request : db'.maintenanceRequests.findUnique requestId =
    db.maintenanceRequests.findUnique requestId
  audits : db'.auditsOf requestId = db.auditsOf requestId
  comments : db'.comments.filter (·.requestId = requestId) =
    db.comments.filter (·.requestId = requestId)
  readStates : db'.commentReadStates.rows.filter (·.requestId = requestId) =
    db.commentReadStates.rows.filter (·.requestId = requestId)
  ownerReadStates : db'.ownerCommentReadStates.rows.filter (·.requestId = requestId) =
    db.ownerCommentReadStates.rows.filter (·.requestId = requestId)
  attachments : db'.attachments.filter (·.requestId = requestId) =
    db.attachments.filter (·.requestId = requestId)

/-- The write is about the request alone. -/
def Write.IsOf (requestId : Id) : Write → Prop
  | .update u => u.requestId = requestId
  | .comment c => c.comment.requestId = requestId ∧
      (∀ s, c.readState = some s → s.requestId = requestId) ∧ c.ownerReadState = none
  | .attach attachments => ∀ a ∈ attachments, a.requestId = requestId
  | .markRead readState ownerReadState =>
      (∀ s, readState = some s → s.requestId = requestId) ∧ ownerReadState = none
  | _ => False

variable {env : Env} {db db' : Db} {w : Write} {requestId otherId : Id}

theorem SameRows.refl : SameRows db db requestId := ⟨rfl, rfl, rfl, rfl, rfl, rfl⟩

theorem sameRows_upsertReadState {s : CommentReadState} (h : s.requestId ≠ otherId) :
    SameRows db (db.upsertReadState s) otherId := by
  unfold Db.upsertReadState
  cases hinsert : db.commentReadStates.insert s with
  | some t => exact ⟨rfl, rfl, rfl, Table.filter_insert hinsert (decide_eq_false h), rfl, rfl⟩
  | none =>
    refine ⟨rfl, rfl, rfl, Table.filter_modify fun a ha => decide_eq_false fun hi => h ?_, rfl, rfl⟩
    exact (congrArg (·.2.1) ha).symm.trans hi

theorem sameRows_upsertReadStates {s : Option CommentReadState}
    (h : ∀ r, s = some r → r.requestId = requestId) (hne : otherId ≠ requestId) :
    SameRows db (db.upsertReadStates s none) otherId := by
  cases s with
  | none => exact .refl
  | some r => exact sameRows_upsertReadState fun hr => hne (hr.symm.trans (h r rfl))

theorem filter_append_of {α : Type} {p : α → Bool} {l l' : List α} (h : ∀ a ∈ l', p a = false) :
    (l ++ l').filter p = l.filter p := by
  have hnone : l'.filter p = [] := List.filter_eq_nil_iff.mpr fun a ha => by simp [h a ha]
  rw [List.filter_append, hnone, List.append_nil]

theorem sameRows_update {u : RowUpdate} (hu : u.requestId = requestId) (hne : otherId ≠ requestId)
    (h : commit env (.update u) db = .ok db') : SameRows db db' otherId := by
  obtain ⟨request, hmem, hid, rfl⟩ := commit_update.mp h
  have hupdated : ((touched u.data env.now).apply request).id ≠ otherId := by
    rw [(touched u.data env.now).key_apply, hid, hu]
    exact hne.symm
  refine ⟨?_, ?_, rfl, rfl, rfl, rfl⟩
  · change (db.maintenanceRequests.modify _ _).findUnique otherId = _
    rw [Table.findUnique_modify_eq]
    cases hfind : db.maintenanceRequests.findUnique otherId with
    | none => rfl
    | some r =>
      have hr : r.id ≠ u.requestId := by
        rw [(Table.findUnique_eq_some.mp hfind).2, hu]
        exact hne
      rw [Option.map_some, if_neg hr]
  · rw [auditsOf_applyUpdate, if_neg hupdated, List.append_nil]

theorem commit_sameRows (hw : w.IsOf requestId) (hne : otherId ≠ requestId)
    (h : commit env w db = .ok db') : SameRows db db' otherId := by
  cases w with
  | update u => exact sameRows_update hw hne h
  | comment c =>
    obtain ⟨hcomment, hread, howner⟩ := hw
    obtain rfl := Except.ok.inj h
    obtain ⟨hrequest, haudits, hcomments, hreads, howners, hattachments⟩ :=
      @sameRows_upsertReadStates db requestId otherId c.readState hread hne
    rw [howner]
    refine ⟨hrequest, haudits, filter_append_of fun a ha => ?_, hreads, howners, hattachments⟩
    rw [List.mem_singleton.mp ha, hcomment]
    exact decide_eq_false hne.symm
  | attach attachments =>
    obtain rfl := Except.ok.inj h
    refine ⟨rfl, rfl, rfl, rfl, rfl, filter_append_of fun a ha => ?_⟩
    rw [hw a ha]
    exact decide_eq_false hne.symm
  | markRead readState ownerReadState =>
    obtain ⟨hread, rfl⟩ := hw
    obtain rfl := Except.ok.inj h
    exact sameRows_upsertReadStates hread hne
  | create _ _ _ => cases hw
  | remind _ _ _ => cases hw
  | skip => cases hw

theorem comments_upsertReadStates {s : Option CommentReadState} :
    (db.upsertReadStates s none).comments = db.comments := by
  cases s with
  | none => rfl
  | some r =>
    simp only [Db.upsertReadStates, Option.elim, Db.upsertReadState]
    split <;> rfl

theorem commit_newComments (hw : w.IsOf requestId) (h : commit env w db = .ok db') :
    ∀ c ∈ db'.comments.drop db.comments.length, c.requestId = requestId := by
  have hnone : db'.comments = db.comments →
      ∀ c ∈ db'.comments.drop db.comments.length, c.requestId = requestId := by
    intro hsame c hc
    rw [hsame, List.drop_length] at hc
    cases hc
  cases w with
  | update u =>
    obtain ⟨request, -, -, rfl⟩ := commit_update.mp h
    exact hnone rfl
  | comment c =>
    obtain ⟨hcomment, -, howner⟩ := hw
    obtain rfl := Except.ok.inj h
    intro c' hc'
    rw [List.drop_left] at hc'
    rw [List.mem_singleton.mp hc', hcomment]
  | attach attachments =>
    obtain rfl := Except.ok.inj h
    exact hnone rfl
  | markRead readState ownerReadState =>
    obtain ⟨-, rfl⟩ := hw
    obtain rfl := Except.ok.inj h
    exact hnone comments_upsertReadStates
  | create _ _ _ => cases hw
  | remind _ _ _ => cases hw
  | skip => cases hw

end Frame

section Confinement

def Db.Holds (db : Db) (P : MaintenanceRequest → Prop) (requestId : Id) : Prop :=
  ∃ r ∈ db.maintenanceRequests, r.id = requestId ∧ P r

def Response.IsOf (Q : Id → Prop) : Response → Prop
  | .requests rs => ∀ r ∈ rs, Q r.id
  | .comments cs => ∀ c ∈ cs, Q c.requestId
  | .unreadCount counted => ∀ c ∈ counted, Q c.requestId

theorem Response.IsOf.imp {Q Q' : Id → Prop} {response : Response} (h : response.IsOf Q)
    (hQ : ∀ requestId, Q requestId → Q' requestId) : response.IsOf Q' := by
  cases response with
  | requests rs => exact fun r hr => hQ _ (h r hr)
  | comments cs => exact fun c hc => hQ _ (h c hc)
  | unreadCount counted => exact fun c hc => hQ _ (h c hc)

/-- Every request that a call gives back, counts or changes was one of `P` before the call,
and naming any other throws. -/
structure Confines (P : MaintenanceRequest → Prop) (db : Db) (named : Option Id)
    (result : Result (Response × Db)) : Prop where
  returns : ∀ response db', result = .ok (response, db') → response.IsOf (db.Holds P)
  changes : ∀ response db', result = .ok (response, db') → ∀ requestId, ¬ db.Holds P requestId →
    SameRows db db' requestId
  refuses : ∀ requestId, named = some requestId → ¬ db.Holds P requestId → ∃ e, result = .error e

def ConfinedTo (P : MaintenanceRequest → Prop) (env : Env) (db : Db) (user : AuthenticatedUser)
    (buildingId : Id) (op : BuildingOperation) : Prop :=
  Confines P db op.requestId (op.perform env db (some user) buildingId)

/-- Assigned to the building through a visible building role of the organisation, and without
the permission to assign requests there. -/
structure StaffOnly (access : AccessTables) (user : AuthenticatedUser) (buildingId : Id) :
    Prop where
  assigned : buildingId ≠ "" ∧ ∃ a ∈ access.userAccessAssignments, a.userId = user.sub ∧
    a.scopeType = .BUILDING ∧ a.scopeId = some buildingId ∧
      ∃ role ∈ access.roleTemplates, role.id = a.roleTemplateId ∧ role.orgId = user.orgId ∧
        role.scopeType = .BUILDING ∧ isVisibleRoleTemplate role = true
  cannotAssign : REQUEST_ASSIGN_PERMISSION ∉
    access.getUserEffectivePermissions user.sub user.orgId (some buildingId)

/-- An override, by permission, of an approval that is pending at the building. -/
def Overrides (access : AccessTables) (user : AuthenticatedUser) (buildingId : Id)
    (op : BuildingOperation) (r : MaintenanceRequest) : Prop :=
  (∃ dto, op = .overrideOwnerApproval r.id dto) ∧
    REQUEST_OWNER_APPROVAL_OVERRIDE_PERMISSION ∈
      access.getUserEffectivePermissions user.sub user.orgId (some buildingId) ∧
    some r.orgId = user.orgId ∧ r.buildingId = buildingId ∧ r.ownerApprovalStatus = .PENDING

def IsOwn (user : AuthenticatedUser) (r : MaintenanceRequest) : Prop :=
  r.assignedToUserId = some user.sub

end Confinement

section Entry

variable {env : Env} {db db' : Db} {user : AuthenticatedUser} {buildingId : Id}
  {entry : BuildingEntry} {request : MaintenanceRequest}

theorem enterBuilding_ok (h : enterBuilding env (some user) buildingId = .ok entry) :
    user.orgId = some entry.orgId ∧ entry.userId = user.sub ∧ user.sub ≠ "" ∧
      entry.accessContext =
        env.world.getBuildingAccessContext user.sub entry.orgId buildingId := by
  simp only [enterBuilding, Outcome.bind_eq_ok, Outcome.pure_eq_ok] at h
  obtain ⟨orgId, horg, userId, huser, building, -, rfl⟩ := h
  obtain ⟨horg, -⟩ := truthy_eq_some.mp (Outcome.orThrow_eq_ok.mp horg)
  obtain ⟨huser, hne⟩ := truthy_eq_some.mp (Outcome.orThrow_eq_ok.mp huser)
  obtain rfl := Option.some.inj huser
  exact ⟨horg, rfl, hne, rfl⟩

theorem isBuildingStaffOnly (hstaff : StaffOnly env.world.access user buildingId)
    (h : enterBuilding env (some user) buildingId = .ok entry) :
    entry.accessContext = ⟨true, true⟩ := by
  obtain ⟨horg, -, -, hcontext⟩ := enterBuilding_ok h
  obtain ⟨⟨hne, a, ha, huser, hscope, hbuilding, role, hrole, hid, hroleOrg, hroleScope, hvisible⟩,
    hassign⟩ := hstaff
  have hmem : a ∈ env.world.access.getUserScopedAssignments user.sub (some entry.orgId)
      (some buildingId) := by
    refine List.mem_filter.mpr ⟨ha, decide_eq_true ⟨huser, ?_⟩⟩
    have hfind : env.world.access.roleTemplates.findUnique a.roleTemplateId = some role :=
      Table.findUnique_eq_some.mpr ⟨hrole, hid⟩
    have htruthy : truthy (some buildingId) = some buildingId := truthy_eq_some.mpr ⟨rfl, hne⟩
    rw [hfind, htruthy]
    simp [AccessTables.inScope, hscope, hbuilding, hroleOrg, hroleScope, hvisible, horg]
  have hany : (env.world.access.getUserScopedAssignments user.sub (some entry.orgId)
      (some buildingId)).any (·.scopeType = .BUILDING) = true :=
    List.any_eq_true.mpr ⟨a, hmem, decide_eq_true hscope⟩
  rw [horg] at hassign
  rw [hcontext, World.getBuildingAccessContext, hany, decide_eq_false hassign]
  rfl

theorem not_manager {α : Type} {f : BuildingEntry → Result α} {a : α} {staffMessage : String}
    (hstaff : StaffOnly env.world.access user buildingId) :
    (enterAsManager env (some user) buildingId staffMessage >>= f) ≠ .ok a := by
  intro h
  obtain ⟨entry, hmanager, -⟩ := Outcome.bind_eq_ok.mp h
  simp only [enterAsManager, Outcome.bind_eq_ok, Outcome.throwIf_eq_ok] at hmanager
  obtain ⟨entry, henter, -, hnot, -⟩ := hmanager
  rw [isBuildingStaffOnly hstaff henter] at hnot
  exact hnot rfl

theorem own_of_assertOwnAssignment {u : Unit} (hstaff : StaffOnly env.world.access user buildingId)
    (henter : enterBuilding env (some user) buildingId = .ok entry)
    (h : entry.assertOwnAssignment request = .ok u) : IsOwn user request := by
  have hnot := Outcome.throwIf_eq_ok.mp h
  rw [isBuildingStaffOnly hstaff henter, (enterBuilding_ok henter).2.1] at hnot
  by_contra hother
  exact hnot ⟨rfl, hother⟩

end Entry

section Calls

variable {P : MaintenanceRequest → Prop} {env : Env} {db : Db} {user : AuthenticatedUser}
  {buildingId requestId : Id} {w : Write} {o : Operation}

theorem confines_of_step {f : Db → Response}
    (h : ∀ w, plan env db o = .ok w → w.IsOf requestId ∧ db.Holds P requestId ∧
      ∀ db', commit env w db = .ok db' → (f db').IsOf (· = requestId)) :
    Confines P db (some requestId) (do
      let db' ← step env o db
      return (f db', db')) := by
  have hreturned : ∀ {response db'}, (do
      let db' ← step env o db
      return (f db', db') : Result (Response × Db)) = .ok (response, db') →
        ∃ w, plan env db o = .ok w ∧ commit env w db = .ok db' ∧ f db' = response := by
    intro response db' hok
    obtain ⟨db'', hstep, hpure⟩ := Outcome.bind_eq_ok.mp hok
    obtain ⟨rfl, rfl⟩ := Prod.mk.inj (Outcome.pure_eq_ok.mp hpure)
    obtain ⟨w, hplan, hcommit⟩ := step_eq_ok.mp hstep
    exact ⟨w, hplan, hcommit, rfl⟩
  refine ⟨fun response db' hok => ?_, fun response db' hok otherId hother => ?_, ?_⟩
  · obtain ⟨w, hplan, hcommit, rfl⟩ := hreturned hok
    obtain ⟨-, hholds, hresponse⟩ := h w hplan
    exact (hresponse db' hcommit).imp fun _ hid => hid ▸ hholds
  · obtain ⟨w, hplan, hcommit, -⟩ := hreturned hok
    obtain ⟨hwrite, hholds, -⟩ := h w hplan
    exact commit_sameRows hwrite (fun heq => hother (heq ▸ hholds)) hcommit
  · rintro _ ⟨⟩ hnot
    cases hresult : (do
        let db' ← step env o db
        return (f db', db') : Result (Response × Db)) with
    | error e => exact ⟨e, rfl⟩
    | ok result =>
      obtain ⟨w, hplan, -⟩ := hreturned hresult
      exact absurd (h w hplan).2.1 hnot

theorem confines_updatedRequest (hid : o.requestId = some requestId)
    (h : ∀ w, plan env db o = .ok w → w.IsOf requestId ∧ db.Holds P requestId) :
    Confines P db (some requestId) (updatedRequest env db o) := by
  refine confines_of_step fun w hplan => ⟨(h w hplan).1, (h w hplan).2, fun db' _ r hr => ?_⟩
  rw [hid, Option.bind_some, Option.mem_toList] at hr
  exact (Table.findUnique_eq_some.mp hr).2

end Calls

section Operations

variable {env : Env} {db : Db} {user : AuthenticatedUser} {buildingId requestId : Id} {w : Write}

theorem holds_own {entry : BuildingEntry} {request : MaintenanceRequest} {u : Unit}
    (hstaff : StaffOnly env.world.access user buildingId)
    (henter : enterBuilding env (some user) buildingId = .ok entry)
    (hload : findByIdForBuilding db entry.orgId buildingId requestId = .ok request)
    (hown : entry.assertOwnAssignment request = .ok u) :
    request.id = requestId ∧ db.Holds (IsOwn user) requestId := by
  obtain ⟨hmem, hid⟩ := findByIdForBuilding_ok hload
  exact ⟨hid, request, hmem, hid, own_of_assertOwnAssignment hstaff henter hown⟩

theorem updateRequestStatus_own {status : MaintenanceRequestStatus}
    (hstaff : StaffOnly env.world.access user buildingId)
    (h : updateRequestStatus env db (some user) buildingId requestId status = .ok w) :
    w.IsOf requestId ∧ db.Holds (IsOwn user) requestId := by
  simp only [updateRequestStatus, Outcome.bind_eq_ok, Outcome.pure_eq_ok] at h
  obtain ⟨entry, henter, request, hload, -, -, _, hown, -, -, rfl⟩ := h
  exact holds_own hstaff henter hload hown

theorem addBuildingComment_own {dto : CreateBuildingRequestCommentDto}
    (hstaff : StaffOnly env.world.access user buildingId)
    (h : addBuildingComment env db (some user) buildingId requestId dto = .ok w) :
    w.IsOf requestId ∧ db.Holds (IsOwn user) requestId := by
  simp only [addBuildingComment, Outcome.bind_eq_ok, Outcome.pure_eq_ok] at h
  obtain ⟨entry, henter, request, hload, _, hown, rfl⟩ := h
  obtain ⟨hid, hholds⟩ := holds_own hstaff henter hload hown
  refine ⟨⟨hid, ?_, rfl⟩, hholds⟩
  rintro _ ⟨⟩
  exact hid

theorem listBuildingComments_own (hstaff : StaffOnly env.world.access user buildingId)
    (h : listBuildingComments env db (some user) buildingId requestId = .ok w) :
    w.IsOf requestId ∧ db.Holds (IsOwn user) requestId := by
  simp only [listBuildingComments, Outcome.bind_eq_ok, Outcome.pure_eq_ok] at h
  obtain ⟨entry, henter, request, hload, _, hown, rfl⟩ := h
  obtain ⟨hid, hholds⟩ := holds_own hstaff henter hload hown
  refine ⟨⟨fun s hs => ?_, rfl⟩, hholds⟩
  obtain ⟨c, -, rfl⟩ := Option.map_eq_some_iff.mp hs
  exact hid

theorem addBuildingAttachments_own {attachments : List AttachmentInput}
    (hstaff : StaffOnly env.world.access user buildingId)
    (h : addBuildingAttachments env db (some user) buildingId requestId attachments = .ok w) :
    w.IsOf requestId ∧ db.Holds (IsOwn user) requestId := by
  simp only [addBuildingAttachments, Outcome.bind_eq_ok, Outcome.pure_eq_ok] at h
  obtain ⟨entry, henter, request, hload, -, -, _, hown, rfl⟩ := h
  obtain ⟨hid, hholds⟩ := holds_own hstaff henter hload hown
  refine ⟨fun a ha => ?_, hholds⟩
  obtain ⟨input, -, rfl⟩ := List.mem_map.mp ha
  exact hid

theorem overrideOwnerApproval_overrides {dto : OverrideOwnerApprovalDto}
    (h : overrideOwnerApproval env db (some user) buildingId requestId dto = .ok w) :
    w.IsOf requestId ∧ db.Holds
      (Overrides env.world.access user buildingId (.overrideOwnerApproval requestId dto))
        requestId := by
  simp only [overrideOwnerApproval, Outcome.bind_eq_ok, Outcome.pure_eq_ok] at h
  obtain ⟨orgId, horg, userId, huser, -, -, _, hpermission, request, hload, _, hpending, -, -, -, -,
    rfl⟩ := h
  obtain ⟨horg, -⟩ := truthy_eq_some.mp (Outcome.orThrow_eq_ok.mp horg)
  obtain ⟨huser, -⟩ := truthy_eq_some.mp (Outcome.orThrow_eq_ok.mp huser)
  obtain rfl := Option.some.inj huser
  obtain ⟨hmem, hwhere⟩ := Table.findFirst_some (Outcome.orThrow_eq_ok.mp hload)
  obtain ⟨hid, hrequestOrg, hbuilding⟩ := of_decide_eq_true hwhere
  refine ⟨hid, request, hmem, hid, ⟨dto, by rw [hid]⟩, ?_, ?_, hbuilding, ?_⟩
  · have heffective := not_not.mp (Outcome.throwIf_eq_ok.mp hpermission)
    change user.orgId = some orgId at horg
    rw [horg]
    exact heffective
  · rw [hrequestOrg]
    exact horg.symm
  · exact not_not.mp (Outcome.throwIf_eq_ok.mp hpending)

theorem listByBuilding_own {entry : BuildingEntry} {status : Option MaintenanceRequestStatus}
    {r : MaintenanceRequest} (hstaff : StaffOnly env.world.access user buildingId)
    (henter : enterBuilding env (some user) buildingId = .ok entry)
    (hr : r ∈ listByBuilding db entry.orgId buildingId status entry.assignedToUserId) :
    db.Holds (IsOwn user) r.id := by
  obtain ⟨hmem, hwhere⟩ := List.mem_filter.mp ((List.mem_insertionSort _).mp hr)
  obtain ⟨-, -, -, hassigned⟩ := of_decide_eq_true hwhere
  obtain ⟨-, huser, hne, -⟩ := enterBuilding_ok henter
  have htruthy : truthy entry.assignedToUserId = some user.sub := by
    rw [BuildingEntry.assignedToUserId, isBuildingStaffOnly hstaff henter, huser]
    exact truthy_eq_some.mpr ⟨rfl, hne⟩
  rw [htruthy] at hassigned
  exact ⟨r, hmem, rfl, of_decide_eq_true (p := r.assignedToUserId = some user.sub) hassigned⟩

theorem confines_listBuildingRequests {query : Option ListBuildingRequestsQueryDto}
    (hstaff : StaffOnly env.world.access user buildingId) :
    ConfinedTo (IsOwn user) env db user buildingId (.listBuildingRequests query) := by
  have hreturned : ∀ response db',
      (BuildingOperation.listBuildingRequests query).perform env db (some user) buildingId =
        .ok (response, db') → response.IsOf (db.Holds (IsOwn user)) ∧ db' = db := by
    intro response db' hok
    obtain ⟨requests, hlist, hpure⟩ := Outcome.bind_eq_ok.mp hok
    obtain ⟨rfl, rfl⟩ := Prod.mk.inj (Outcome.pure_eq_ok.mp hpure)
    obtain ⟨entry, henter, hpure⟩ := Outcome.bind_eq_ok.mp hlist
    obtain rfl := Outcome.pure_eq_ok.mp hpure
    exact ⟨fun r hr => listByBuilding_own hstaff henter (List.mem_filter.mp hr).1, rfl⟩
  refine ⟨fun response db' hok => (hreturned response db' hok).1, fun response db' hok _ _ => ?_,
    fun _ h => by cases h⟩
  rw [(hreturned response db' hok).2]
  exact .refl

theorem confines_countUnreadBuildingComments
    (hstaff : StaffOnly env.world.access user buildingId) :
    ConfinedTo (IsOwn user) env db user buildingId .countUnreadBuildingComments := by
  have hreturned : ∀ response db',
      BuildingOperation.countUnreadBuildingComments.perform env db (some user) buildingId =
        .ok (response, db') → response.IsOf (db.Holds (IsOwn user)) ∧ db' = db := by
    intro response db' hok
    obtain ⟨counted, hcount, hpure⟩ := Outcome.bind_eq_ok.mp hok
    obtain ⟨rfl, rfl⟩ := Prod.mk.inj (Outcome.pure_eq_ok.mp hpure)
    obtain ⟨entry, henter, hpure⟩ := Outcome.bind_eq_ok.mp hcount
    obtain rfl := Outcome.pure_eq_ok.mp hpure
    refine ⟨fun t ht => ?_, rfl⟩
    obtain ⟨c, hc, rfl⟩ := List.mem_map.mp (List.mem_filter.mp ht).1
    obtain ⟨-, hrequest, -⟩ := of_decide_eq_true (List.mem_filter.mp hc).2
    obtain ⟨r, hr, hid⟩ := List.mem_map.mp hrequest
    exact hid ▸ listByBuilding_own hstaff henter hr
  refine ⟨fun response db' hok => (hreturned response db' hok).1, fun response db' hok _ _ => ?_,
    fun _ h => by cases h⟩
  rw [(hreturned response db' hok).2]
  exact .refl

theorem confines_getBuildingRequest (hstaff : StaffOnly env.world.access user buildingId) :
    ConfinedTo (IsOwn user) env db user buildingId (.getBuildingRequest requestId) := by
  have hreturned : ∀ response db',
      (BuildingOperation.getBuildingRequest requestId).perform env db (some user) buildingId =
        .ok (response, db') →
          (∃ r, response = .requests [r] ∧ r.id = requestId) ∧
            db.Holds (IsOwn user) requestId ∧ db' = db := by
    intro response db' hok
    obtain ⟨request, hget, hpure⟩ := Outcome.bind_eq_ok.mp hok
    obtain ⟨rfl, rfl⟩ := Prod.mk.inj (Outcome.pure_eq_ok.mp hpure)
    simp only [getBuildingRequest, Outcome.bind_eq_ok, Outcome.pure_eq_ok] at hget
    obtain ⟨entry, henter, request, hload, _, hown, rfl⟩ := hget
    obtain ⟨hid, hholds⟩ := holds_own hstaff henter hload hown
    exact ⟨⟨request, rfl, hid⟩, hholds, rfl⟩
  refine ⟨fun response db' hok => ?_, fun response db' hok _ _ => ?_, ?_⟩
  · obtain ⟨⟨r, rfl, hid⟩, hholds, -⟩ := hreturned response db' hok
    intro r' hr'
    rw [List.mem_singleton.mp hr', hid]
    exact hholds
  · rw [(hreturned response db' hok).2.2]
    exact .refl
  · rintro _ ⟨⟩ hnot
    cases hresult : (BuildingOperation.getBuildingRequest requestId).perform env db (some user)
        buildingId with
    | error e => exact ⟨e, rfl⟩
    | ok result => exact absurd (hreturned _ _ hresult).2.1 hnot

end Operations

section Staff

variable {P Q : MaintenanceRequest → Prop} {db : Db} {requestId : Id}

theorem Db.Holds.imp (hPQ : ∀ r, P r → Q r) (h : db.Holds P requestId) : db.Holds Q requestId := by
  obtain ⟨r, hr, hid, hP⟩ := h
  exact ⟨r, hr, hid, hPQ r hP⟩

theorem Confines.imp {named : Option Id} {result : Result (Response × Db)}
    (h : Confines P db named result) (hPQ : ∀ r, P r → Q r) : Confines Q db named result where
  returns response db' hok := (h.returns response db' hok).imp fun _ => Db.Holds.imp hPQ
  changes response db' hok requestId hnot :=
    h.changes response db' hok requestId fun hP => hnot (hP.imp hPQ)
  refuses requestId hnamed hnot := h.refuses requestId hnamed fun hP => hnot (hP.imp hPQ)

end Staff

section Scene

/-- One member of the staff, by a role with the permission to override. -/
theorem managerPermissions_nodup : (REQUEST_MANAGER_PERMISSIONS.map Permission.id).Nodup := by
  decide

def staffAccess (role : RoleTemplate) : AccessTables where
  permissions := ⟨REQUEST_MANAGER_PERMISSIONS, managerPermissions_nodup⟩
  roleTemplates := ⟨[role], List.nodup_singleton _⟩
  rolePermissions := ⟨[⟨role.id, "override"⟩], List.nodup_singleton _⟩
  userAccessAssignments :=
    ⟨[⟨"staffing", "manager", role.id, .BUILDING, some "building"⟩], List.nodup_singleton _⟩
  userPermissions := .empty _

def overseers : RoleTemplate := ⟨"overseers", some "org", "overseer", false, .BUILDING⟩

/-- A system role that is no longer shown. -/
def caretakers : RoleTemplate := ⟨"caretakers", some "org", "caretaker", true, .BUILDING⟩

def staffEnv (role : RoleTemplate) : Env :=
  { sceneEnv "org" "building" 2 with
    world := { scene "org" "building" with access := staffAccess role } }

def staff : AuthenticatedUser := ⟨"manager", some "org"⟩

/-- A request that is assigned to nobody and waits for its owner. -/
def pendingRequest : Db := run .empty [residentCreates 0 "Tap", managerRequires 1]

theorem staffOnly_overseers : StaffOnly (staffEnv overseers).world.access staff "building" :=
  ⟨by decide +kernel, by decide +kernel⟩

theorem not_own_pendingRequest : ¬ pendingRequest.Holds (IsOwn staff) "request" := by
  have hrows : ∀ r ∈ pendingRequest.maintenanceRequests,
      ¬ (r.id = "request" ∧ r.assignedToUserId = some staff.sub) := by decide +kernel
  rintro ⟨r, hr, hid, hown⟩
  exact hrows r hr ⟨hid, hown⟩

end Scene

end Towerdesk.Maintenance
