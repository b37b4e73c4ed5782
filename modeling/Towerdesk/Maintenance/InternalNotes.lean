import Towerdesk.Maintenance.Threads
import Towerdesk.Maintenance.Scene

/-!
# Internal notes

Comments that management keeps to itself. What residents, owners and providers can see of
the store is a view of it. An internal note and the reading of a thread by management leave
the view as it is, and what it is after any other operation depends on the view alone.
-/

namespace Towerdesk.Maintenance

structure Outside where
  maintenanceRequests : Table MaintenanceRequest.id
  ownerApprovalAudits : List OwnerApprovalAudit
  comments : List Comment
  commentReadStates : Id → Id → Option CommentReadState
  ownerCommentReadStates : Table OwnerRequestCommentReadState.key
  attachments : List Attachment
  events : List Event

def Db.outside (db : Db) : Outside where
  maintenanceRequests := db.maintenanceRequests
  ownerApprovalAudits := db.ownerApprovalAudits
  comments := db.comments.filter (·.visibility = .SHARED)
  commentReadStates userId requestId :=
    db.commentReadStates.findUnique (userId, requestId, .PROVIDER)
  ownerCommentReadStates := db.ownerCommentReadStates
  attachments := db.attachments
  events := db.events

/-- An internal note, or management reading a thread. -/
def Operation.IsInternal : Operation → Prop
  | .addBuildingComment _ _ _ dto => dto.visibility = .value .INTERNAL
  | .listBuildingComments .. => True
  | _ => False

instance : DecidablePred Operation.IsInternal := by
  rintro ⟨⟩ <;> first
    | exact inferInstanceAs (Decidable (_ = _))
    | exact isTrue trivial
    | exact isFalse id

section View

variable {env : Env} {db db' : Db} {op : Operation} {w : Write}

theorem outside_eq_iff : db.outside = db'.outside ↔
    db.maintenanceRequests = db'.maintenanceRequests ∧
      db.ownerApprovalAudits = db'.ownerApprovalAudits ∧
      (db.comments.filter (·.visibility = .SHARED)) =
        db'.comments.filter (·.visibility = .SHARED) ∧
      (∀ userId requestId, db.commentReadStates.findUnique (userId, requestId, .PROVIDER) =
        db'.commentReadStates.findUnique (userId, requestId, .PROVIDER)) ∧
      db.ownerCommentReadStates = db'.ownerCommentReadStates ∧
      db.attachments = db'.attachments ∧ db.events = db'.events := by
  simp only [Db.outside, Outside.mk.injEq, funext_iff]

theorem listComments_shared (orgId : Option Id) (requestId : Id) :
    listComments db orgId requestId (some .SHARED) =
      ((db.comments.filter (·.visibility = .SHARED)).filter fun c =>
          c.requestId = requestId ∧ orgId.all (c.orgId = ·)).insertionSort
        fun a b => a.createdAt ≤ b.createdAt := by
  rw [List.filter_filter, listComments]
  congr 2
  funext c
  simp only [Option.all_some, Bool.decide_and, Bool.decide_eq_true, Bool.and_assoc]

theorem plan_congr (h : db.outside = db'.outside) (hop : ¬ op.IsInternal) :
    plan env db op = plan env db' op := by
  obtain ⟨hrequests, -, hcomments, -⟩ := outside_eq_iff.mp h
  have hshared (orgId : Option Id) (requestId : Id) :
      listComments db orgId requestId (some .SHARED) =
        listComments db' orgId requestId (some .SHARED) := by
    rw [listComments_shared, listComments_shared, hcomments]
  cases op with
  | listBuildingComments user buildingId requestId => exact absurd trivial hop
  | listProviderComments user requestId =>
    simp only [plan, listProviderComments, findByIdForServiceProviders, hrequests, hshared]
  | listAccessibleRequestComments userId requestId =>
    simp only [plan, listAccessibleRequestComments, getAccessibleRequestById, hrequests, hshared]
  | _ =>
    -- the rest read nothing of the store but the requests
    cases db
    cases db'
    cases hrequests
    rfl

theorem upsertReadState_eq (s : CommentReadState) : db.upsertReadState s =
    { db with commentReadStates := (db.upsertReadState s).commentReadStates } := by
  unfold Db.upsertReadState
  split <;> rfl

theorem outside_upsertReadState (h : db.outside = db'.outside) (s : CommentReadState) :
    (db.upsertReadState s).outside = (db'.upsertReadState s).outside := by
  obtain ⟨hrequests, haudits, hcomments, hstates, howner, hattachments, hevents⟩ :=
    outside_eq_iff.mp h
  have hstates' (userId requestId : Id) :
      (db.upsertReadState s).commentReadStates.findUnique (userId, requestId, .PROVIDER) =
        (db'.upsertReadState s).commentReadStates.findUnique (userId, requestId, .PROVIDER) := by
    rw [findUnique_upsertReadState, findUnique_upsertReadState, hstates]
  rw [upsertReadState_eq s, @upsertReadState_eq db' s]
  exact outside_eq_iff.mpr
    ⟨hrequests, haudits, hcomments, hstates', howner, hattachments, hevents⟩

theorem outside_upsertOwnerReadState (h : db.outside = db'.outside)
    (o : OwnerRequestCommentReadState) :
    (db.upsertOwnerReadState o).outside = (db'.upsertOwnerReadState o).outside := by
  obtain ⟨hrequests, haudits, hcomments, hstates, howner, hattachments, hevents⟩ :=
    outside_eq_iff.mp h
  unfold Db.upsertOwnerReadState
  rw [howner]
  cases db'.ownerCommentReadStates.insert o with
  | some t =>
    exact outside_eq_iff.mpr
      ⟨hrequests, haudits, hcomments, hstates, rfl, hattachments, hevents⟩
  | none =>
    exact outside_eq_iff.mpr
      ⟨hrequests, haudits, hcomments, hstates, rfl, hattachments, hevents⟩

theorem outside_upsertReadStates (h : db.outside = db'.outside) (s : Option CommentReadState)
    (o : Option OwnerRequestCommentReadState) :
    (db.upsertReadStates s o).outside = (db'.upsertReadStates s o).outside := by
  have hs : (s.elim db db.upsertReadState).outside = (s.elim db' db'.upsertReadState).outside := by
    cases s with
    | none => exact h
    | some s => exact outside_upsertReadState h s
  cases o with
  | none => exact hs
  | some o => exact outside_upsertOwnerReadState hs o

theorem commit_congr (h : db.outside = db'.outside) :
    (commit env w db).map Db.outside = (commit env w db').map Db.outside := by
  obtain ⟨hrequests, haudits, hcomments, hstates, howner, hattachments, hevents⟩ :=
    outside_eq_iff.mp h
  cases w with
  | create request attachments event =>
    simp only [commit, hrequests]
    cases db'.maintenanceRequests.insert request with
    | none => rfl
    | some t =>
      exact congrArg Except.ok (outside_eq_iff.mpr ⟨rfl, haudits, hcomments, hstates, howner,
        congrArg (· ++ attachments) hattachments, congrArg (· ++ [event]) hevents⟩)
  | update u =>
    simp only [commit, hrequests]
    cases db'.maintenanceRequests.findUnique u.requestId with
    | none => rfl
    | some r =>
      exact congrArg Except.ok (outside_eq_iff.mpr ⟨by simp only [Db.applyUpdate, hrequests],
        by simp only [Db.applyUpdate, haudits], hcomments, hstates, howner, hattachments,
        by simp only [Db.applyUpdate, hevents]⟩)
  | remind requestId now event =>
    simp only [commit, hrequests]
    split_ifs
    · exact congrArg Except.ok (outside_eq_iff.mpr ⟨rfl, haudits, hcomments, hstates, howner,
        hattachments, congrArg (· ++ [event]) hevents⟩)
    · exact congrArg Except.ok h
  | comment c =>
    obtain ⟨hrequests', haudits', -, hstates', howner', hattachments', -⟩ :=
      outside_eq_iff.mp (outside_upsertReadStates h c.readState c.ownerReadState)
    refine congrArg Except.ok (outside_eq_iff.mpr ⟨hrequests', haudits', ?_, hstates', howner',
      hattachments', congrArg (· ++ c.event.toList) hevents⟩)
    rw [List.filter_append, List.filter_append, hcomments]
  | attach attachments =>
    exact congrArg Except.ok (outside_eq_iff.mpr ⟨hrequests, haudits, hcomments, hstates, howner,
      congrArg (· ++ attachments) hattachments, hevents⟩)
  | markRead s o => exact congrArg Except.ok (outside_upsertReadStates h s o)
  | skip => exact congrArg Except.ok h

theorem outside_orElseKeep (x : Result Db) : (Outcome.orElseKeep db x).outside =
    Outcome.orElseKeep db.outside (x.map Db.outside) := by
  cases x with
  | error e => rfl
  | ok db' => rfl

theorem next_congr {l : Env × Operation} (hop : ¬ l.2.IsInternal) (h : db.outside = db'.outside) :
    (next l db).outside = (next l db').outside := by
  have hstep : (step l.1 l.2 db).map Db.outside = (step l.1 l.2 db').map Db.outside := by
    have hbind (db : Db) : step l.1 l.2 db = plan l.1 db l.2 >>= fun w => commit l.1 w db := rfl
    rw [hbind, hbind, plan_congr h hop]
    cases plan l.1 db' l.2 with
    | error e => rfl
    | ok w => exact commit_congr h
  rw [next, next, outside_orElseKeep, outside_orElseKeep, h, hstep]

theorem outside_upsertBuilding {s : CommentReadState} (hs : s.scope = .BUILDING) :
    (db.upsertReadState s).outside = db.outside := by
  have hstates (userId requestId : Id) :
      (db.upsertReadState s).commentReadStates.findUnique (userId, requestId, .PROVIDER) =
        db.commentReadStates.findUnique (userId, requestId, .PROVIDER) := by
    rw [findUnique_upsertReadState, if_neg (by simp [CommentReadState.key, hs])]
  rw [upsertReadState_eq]
  exact outside_eq_iff.mpr ⟨rfl, rfl, rfl, hstates, rfl, rfl, rfl⟩

theorem next_internal {l : Env × Operation} (hop : l.2.IsInternal) :
    (next l db).outside = db.outside := by
  obtain ⟨env, op⟩ := l
  rw [next]
  rcases Outcome.orElseKeep_cases db (step env op db) with hkeep | hok
  · rw [hkeep]
  obtain ⟨w, hplan, hcommit⟩ := step_eq_ok.mp hok
  cases op with
  | addBuildingComment user buildingId requestId dto =>
    simp only [plan, addBuildingComment, Outcome.bind_eq_ok, Outcome.pure_eq_ok] at hplan
    obtain ⟨entry, -, request, -, -, -, rfl⟩ := hplan
    have hinternal : dto.visibility.toOption.getD .SHARED = .INTERNAL := by
      rw [show dto.visibility = .value .INTERNAL from hop]
      rfl
    have hmark : (db.upsertReadState ⟨entry.userId, request.id, .BUILDING, env.now⟩).outside =
        db.outside := outside_upsertBuilding rfl
    obtain ⟨hrequests, haudits, -, hstates, howner, hattachments, -⟩ := outside_eq_iff.mp hmark
    rw [← Except.ok.inj hcommit]
    refine outside_eq_iff.mpr ⟨hrequests, haudits, ?_, hstates, howner, hattachments, ?_⟩
    · simp [newComment, hinternal]
    · simp [newComment, hinternal]
  | listBuildingComments user buildingId requestId =>
    simp only [plan, listBuildingComments, Outcome.bind_eq_ok, Outcome.pure_eq_ok] at hplan
    obtain ⟨entry, -, request, -, -, -, rfl⟩ := hplan
    rw [← Except.ok.inj hcommit]
    cases (listComments db (some entry.orgId) request.id none).getLast? with
    | none => rfl
    | some c => exact outside_upsertBuilding rfl
  | _ => exact hop.elim

theorem internal_unwinds : Run.Unwinds next Db.outside fun l => l.2.IsInternal where
  silent_step := next_internal
  visible_step := next_congr

end View

/-- What residents, owners and providers ask about comments. -/
inductive OutsideCall
  | listResidentComments (user : Option AuthenticatedUser) (requestId : Id)
  | listAccessibleRequestComments (userId requestId : Id)
  | countUnreadAccessibleRequestComments (userId : Id)
  | listProviderComments (user : Option AuthenticatedUser) (requestId : Id)
  | countUnreadProviderComments (user : Option AuthenticatedUser)

def OutsideCall.answer (env : Env) (db : Db) : OutsideCall → Result Response
  | .listResidentComments user requestId =>
    .comments <$> Maintenance.listResidentComments env db user requestId
  | .listAccessibleRequestComments userId requestId =>
    .comments <$> accessibleRequestComments env db userId requestId
  | .countUnreadAccessibleRequestComments userId =>
    .ok (.unreadCount (Maintenance.countUnreadAccessibleRequestComments env db userId))
  | .listProviderComments user requestId => .comments <$> providerComments env db user requestId
  | .countUnreadProviderComments user =>
    .unreadCount <$> Maintenance.countUnreadProviderComments env db user

section Answers

variable {env : Env} {db db' : Db}

theorem listCommentTimestamps_shared (orgId : Option Id) (requestIds : List Id) (userId : Id) :
    listCommentTimestamps db orgId requestIds userId (some .SHARED) =
      ((db.comments.filter (·.visibility = .SHARED)).filter fun c =>
          (truthy orgId).all (c.orgId = ·) ∧ c.requestId ∈ requestIds ∧
            c.authorUserId ≠ userId).map fun c => ⟨c.requestId, c.createdAt⟩ := by
  rw [List.filter_filter, listCommentTimestamps]
  congr 2
  funext c
  simp only [Option.all_some, Bool.decide_and, Bool.decide_eq_true, Bool.and_assoc]

theorem answer_congr (h : db.outside = db'.outside) (call : OutsideCall) :
    call.answer env db = call.answer env db' := by
  obtain ⟨hrequests, -, hcomments, hstates, howner, -⟩ := outside_eq_iff.mp h
  have hshared (orgId : Option Id) (requestId : Id) :
      listComments db orgId requestId (some .SHARED) =
        listComments db' orgId requestId (some .SHARED) := by
    rw [listComments_shared, listComments_shared, hcomments]
  cases call with
  | listResidentComments user requestId =>
    simp only [OutsideCall.answer, listResidentComments, findByIdForCreator, hrequests, hshared]
  | listAccessibleRequestComments userId requestId =>
    simp only [OutsideCall.answer, accessibleRequestComments, getAccessibleRequestById, hrequests,
      hshared]
  | countUnreadAccessibleRequestComments userId =>
    have hfilter (db : Db) (requestIds : List Id) :
        (db.comments.filter fun c =>
            c.requestId ∈ requestIds ∧ c.visibility = .SHARED ∧ c.authorUserId ≠ userId) =
          (db.comments.filter (·.visibility = .SHARED)).filter fun c =>
            c.requestId ∈ requestIds ∧ c.authorUserId ≠ userId := by
      rw [List.filter_filter]
      refine List.filter_congr fun c _ => ?_
      rw [Bool.eq_iff_iff]
      simp only [Bool.and_eq_true, decide_eq_true_eq]
      tauto
    have hids : listAccessibleRequestIds env db userId =
        listAccessibleRequestIds env db' userId := by
      rw [listAccessibleRequestIds, listAccessibleRequestIds, hrequests]
    simp only [OutsideCall.answer, countUnreadAccessibleRequestComments, hids, howner]
    rw [hfilter, hfilter, hcomments]
  | listProviderComments user requestId =>
    simp only [OutsideCall.answer, providerComments, findByIdForServiceProviders, hrequests,
      hshared]
  | countUnreadProviderComments user =>
    simp only [OutsideCall.answer, countUnreadProviderComments, listByServiceProviders, hrequests,
      countUnreadCommentsForRequests_eq, listCommentTimestamps_shared, hcomments, hstates]

/-- One run is the other with internal notes, and readings of threads by management, put in
or taken out. -/
def DifferInternally (ls ms : List (Env × Operation)) : Prop :=
  (ls.filter fun l => ¬ l.2.IsInternal) = ms.filter fun l => ¬ l.2.IsInternal

theorem internal_notes_invisible (db : Db) (ls ms : List (Env × Operation))
    (h : DifferInternally ls ms) :
    (∀ env (call : OutsideCall), call.answer env (run db ls) = call.answer env (run db ms)) ∧
      (run db ls).events = (run db ms).events := by
  have hview : (run db ls).outside = (run db ms).outside := internal_unwinds.exec_eq rfl h
  obtain ⟨-, -, -, -, -, -, hevents⟩ := outside_eq_iff.mp hview
  exact ⟨fun env => answer_congr hview, hevents⟩

def managerComments (now : Date) (visibility : CommentVisibility) (message : String) :
    Env × Operation :=
  act now (.addBuildingComment (manager "org") "building" "request" ⟨message, .value visibility⟩)

def resident : Option AuthenticatedUser := some ⟨"resident", some "org"⟩

/-- The resident gets the one answer of the manager, whatever was noted before it. -/
theorem resident_not_shown_note :
    OutsideCall.answer (sceneEnv "org" "building" 3)
        (run .empty [residentCreates 0 "Tap", managerComments 1 .INTERNAL "Again",
          managerComments 2 .SHARED "Tomorrow"]) (.listResidentComments resident "request") =
      OutsideCall.answer (sceneEnv "org" "building" 3)
        (run .empty [residentCreates 0 "Tap", managerComments 2 .SHARED "Tomorrow"])
          (.listResidentComments resident "request") ∧
    (listResidentComments (sceneEnv "org" "building" 3)
        (run .empty [residentCreates 0 "Tap", managerComments 2 .SHARED "Tomorrow"]) resident
          "request").toOption.map (·.map (·.message)) = some ["Tomorrow"] := by
  have hdiffer : DifferInternally
      [residentCreates 0 "Tap", managerComments 1 .INTERNAL "Again",
        managerComments 2 .SHARED "Tomorrow"]
      [residentCreates 0 "Tap", managerComments 2 .SHARED "Tomorrow"] := rfl
  exact ⟨(internal_notes_invisible .empty _ _ hdiffer).1 _ _, by decide +kernel⟩

end Answers

end Towerdesk.Maintenance
