import Towerdesk.Maintenance.BuildingCalls

/-!
# Comment threads

What each portal is shown of the comments of a request, and what counts as unread there.
Residents, owners and providers get the shared comments. Owners and providers have marks of
their own for what was read, apart from those of management.
-/

namespace Towerdesk.Maintenance

section Reads

variable (env : Env) (db : Db)

def listResidentComments (user : Option AuthenticatedUser) (requestId : Id) :
    Result (List Comment) := do
  let entry ← enterResident env user
  let request ← findByIdForCreator db entry.orgId entry.userId requestId
  return listComments db (some entry.orgId) request.id (some .SHARED)

/-- What `listProviderComments` gives back. -/
def providerComments (user : Option AuthenticatedUser) (requestId : Id) :
    Result (List Comment) := do
  let entry ← enterProvider env user
  let request ← findByIdForServiceProviders db entry.accessContext.providerIds requestId
  return listComments db (truthy request.orgId) request.id (some .SHARED)

/-- What `listAccessibleRequestComments` gives back. -/
def accessibleRequestComments (userId requestId : Id) : Result (List Comment) := do
  let (request, unit) ← getAccessibleRequestById env db userId requestId
  return listComments db (some unit.orgId) request.id (some .SHARED)

def listByServiceProviders (serviceProviderIds : List Id)
    (status : Option MaintenanceRequestStatus) : List MaintenanceRequest :=
  (db.maintenanceRequests.rows.filter fun r =>
      r.serviceProviderId.any serviceProviderIds.contains ∧ status.all (r.status = ·)).insertionSort
    fun a b => b.createdAt ≤ a.createdAt

/-- The comments counted. -/
def countUnreadProviderComments (user : Option AuthenticatedUser) :
    Result (List CommentTimestamp) := do
  let entry ← enterProvider env user
  let requests := listByServiceProviders db entry.accessContext.providerIds none
  return countUnreadCommentsForRequests db entry.userId none (requests.map (·.id)) .PROVIDER
    (some .SHARED)

def listAccessibleRequestIds (userId : Id) : List Id :=
  (db.maintenanceRequests.rows.filter fun r =>
    r.unitId.any fun u => (env.world.accessibleUnit userId u).isSome).map (·.id)

/-- The comments counted. -/
def countUnreadAccessibleRequestComments (userId : Id) : List CommentTimestamp :=
  let requestIds := listAccessibleRequestIds env db userId
  let readStates := db.ownerCommentReadStates.rows.filter fun s =>
    s.userId = userId ∧ s.requestId ∈ requestIds
  ((db.comments.filter fun c =>
      c.requestId ∈ requestIds ∧ c.visibility = .SHARED ∧ c.authorUserId ≠ userId).map
    fun c => (⟨c.requestId, c.createdAt⟩ : CommentTimestamp)).filter fun c =>
      (readStates.find? fun s => s.requestId = c.requestId).all (·.lastReadAt < c.createdAt)

end Reads

section Marks

variable {db : Db} {userId : Id} {orgId : Option Id} {requestIds : List Id}
  {scope : CommentReadScope} {visibility : Option CommentVisibility}

theorem findUnique_upsertReadState (s : CommentReadState) (k : Id × Id × CommentReadScope) :
    (db.upsertReadState s).commentReadStates.findUnique k =
      if s.key = k then some s else db.commentReadStates.findUnique k := by
  unfold Db.upsertReadState
  cases hinsert : db.commentReadStates.insert s with
  | some t => exact Table.findUnique_insert hinsert k
  | none =>
    obtain ⟨r, hr, hrs⟩ : ∃ r ∈ db.commentReadStates, r.key = s.key := by
      by_contra hfree
      push Not at hfree
      obtain ⟨t, ht⟩ := Table.exists_insert.mpr hfree
      cases ht.symm.trans hinsert
    by_cases hk : s.key = k
    · subst hk
      rw [if_pos rfl, ← hrs]
      refine (Table.findUnique_modify hr).trans (congrArg some ?_)
      obtain ⟨_, _, _, _⟩ := r
      obtain ⟨_, _, _, _⟩ := s
      simp only [CommentReadState.key, Prod.mk.injEq] at hrs
      obtain ⟨rfl, rfl, rfl⟩ := hrs
      rfl
    · rw [if_neg hk]
      refine Table.findUnique_modify_eq.trans ?_
      cases hfind : db.commentReadStates.findUnique k with
      | none => rfl
      | some r' =>
        have hne : ¬ r'.key = s.key := fun h =>
          hk (h.symm.trans (Table.findUnique_eq_some.mp hfind).2)
        simp [hne]

theorem findUnique_upsertReadStates (s : Option CommentReadState)
    (o : Option OwnerRequestCommentReadState) (k : Id × Id × CommentReadScope) :
    (db.upsertReadStates s o).commentReadStates.findUnique k =
      (s.filter fun m => m.key = k).or (db.commentReadStates.findUnique k) := by
  have ho (db : Db) (o : OwnerRequestCommentReadState) :
      (db.upsertOwnerReadState o).commentReadStates = db.commentReadStates := by
    unfold Db.upsertOwnerReadState
    split <;> rfl
  have hs : (s.elim db db.upsertReadState).commentReadStates.findUnique k =
      (s.filter fun m => m.key = k).or (db.commentReadStates.findUnique k) := by
    cases s with
    | none => rfl
    | some s =>
      rw [Option.elim_some, findUnique_upsertReadState, Option.filter_some]
      by_cases hk : s.key = k <;> simp [hk]
  cases o with
  | none => exact hs
  | some o => exact (congrArg (·.findUnique k) (ho _ o)).trans hs

theorem upsertReadStates_comments (s : Option CommentReadState)
    (o : Option OwnerRequestCommentReadState) :
    (db.upsertReadStates s o).comments = db.comments := by
  obtain ⟨t, u, h⟩ := upsertReadStates_eq db s o
  rw [h]

theorem countUnreadCommentsForRequests_eq :
    countUnreadCommentsForRequests db userId orgId requestIds scope visibility =
      (listCommentTimestamps db orgId requestIds userId visibility).filter fun c =>
        (db.commentReadStates.findUnique (userId, c.requestId, scope)).all
          (·.lastReadAt < c.createdAt) := by
  refine List.filter_congr fun c hc => ?_
  have hmem : c.requestId ∈ requestIds := by
    obtain ⟨comment, hcomment, rfl⟩ := List.mem_map.mp hc
    exact (of_decide_eq_true (List.mem_filter.mp hcomment).2).2.1
  have hsame : (listCommentReadStates db userId requestIds scope).find?
      (fun s => s.requestId = c.requestId) =
        db.commentReadStates.findUnique (userId, c.requestId, scope) := by
    rw [listCommentReadStates, List.find?_filter, Table.findUnique]
    congr 1
    funext s
    rw [Bool.eq_iff_iff]
    simp only [decide_eq_true_eq, CommentReadState.key, Prod.mk.injEq]
    constructor
    · rintro ⟨⟨huser, -, hscope⟩, hrequest⟩
      exact ⟨huser, hrequest, hscope⟩
    · rintro ⟨huser, hrequest, hscope⟩
      exact ⟨⟨huser, hrequest ▸ hmem, hscope⟩, hrequest⟩
  rw [hsame]

end Marks

end Towerdesk.Maintenance
