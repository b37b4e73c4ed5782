import Towerdesk.Lib.ReadWrite
import Towerdesk.Maintenance.Scene
import Towerdesk.Maintenance.Threads

/-!
# Unread comments of a building

Any number of calls add comments at buildings and list them, each with a read and a write,
while one user is watched. What others wrote, what no listing has given him and what is not
older than a comment of his own is awaited. As long as every comment is stored in time, the
awaited comments count as unread.
-/

namespace Towerdesk.Maintenance

open ReadWrite (Config Machine Move)

/-- The store, and the comments that listings have given to the user watched. -/
structure Watched where
  db : Db
  shown : List Comment

inductive ThreadCall
  | addBuildingComment (env : Env) (user : Option AuthenticatedUser) (buildingId requestId : Id)
      (dto : CreateBuildingRequestCommentDto)
  | listBuildingComments (env : Env) (user : Option AuthenticatedUser) (buildingId requestId : Id)

namespace ThreadCall

def env : ThreadCall → Env
  | .addBuildingComment env .. | .listBuildingComments env .. => env

def operation : ThreadCall → Operation
  | .addBuildingComment _ user buildingId requestId dto =>
    .addBuildingComment user buildingId requestId dto
  | .listBuildingComments _ user buildingId requestId =>
    .listBuildingComments user buildingId requestId

/-- What the call gives to `u`. -/
def shows (u : Id) (db : Db) : ThreadCall → List Comment
  | .addBuildingComment .. => []
  | .listBuildingComments _ user _ requestId =>
    if user.map (·.sub) = some u then listComments db (user.bind (·.orgId)) requestId none else []

end ThreadCall

/-- A listing gives back what it has read once its mark is written. -/
def watchMachine (u : Id) : Machine ThreadCall (Write × List Comment) Watched HttpException where
  plan call s := do
    let w ← plan call.env s.db call.operation
    return (w, call.shows u s.db)
  commit call w s := do
    let db ← commit call.env w.1 s.db
    return ⟨db, s.shown ++ w.2⟩

def Write.posted : Write → Option Comment
  | .comment c => some c.comment
  | _ => none

def Write.mark : Write → Option CommentReadState
  | .comment c => c.readState
  | .markRead readState _ => readState
  | _ => none

/-- A comment of `u` on the request is later. -/
def Outdated (db : Db) (u : Id) (x : Comment) : Prop :=
  ∃ y ∈ db.comments, y.requestId = x.requestId ∧ y.authorUserId = u ∧ x.createdAt < y.createdAt

instance (db : Db) (u : Id) (x : Comment) : Decidable (Outdated db u x) :=
  inferInstanceAs (Decidable (∃ y ∈ db.comments, _))

/-- The mark of `u` on the request is earlier. -/
def Unmarked (db : Db) (u : Id) (x : Comment) : Prop :=
  ∀ m ∈ db.commentReadStates.findUnique (u, x.requestId, .BUILDING), m.lastReadAt < x.createdAt

instance (db : Db) (u : Id) (x : Comment) : Decidable (Unmarked db u x) :=
  inferInstanceAs (Decidable (∀ m ∈ (_ : Option CommentReadState), _))

def Watched.awaited (s : Watched) (u requestId : Id) : List Comment :=
  s.db.comments.filter fun x =>
    x.requestId = requestId ∧ x.authorUserId ≠ u ∧ x ∉ s.shown ∧ ¬ Outdated s.db u x

def posts {π : Type*} (missed : List (π × Write × List Comment)) : List Comment :=
  missed.filterMap fun l => l.2.1.posted

/-- A comment of another is stored in time if it is later than the mark of `u`, unless it is
older than one of his; a comment of his own if none that is awaited has its very time. A mark
is written in time if what is awaited and was stored since the listing is later. -/
def InTime {π : Type*} (u requestId : Id) (_ : ThreadCall) (w : Write × List Comment)
    (missed : List (π × Write × List Comment)) (s : Watched) : Prop :=
  match w.1 with
  | .comment c => c.comment.requestId = requestId →
    if c.comment.authorUserId = u then
      ∀ x ∈ s.awaited u requestId, x.createdAt ≠ c.comment.createdAt
    else Outdated s.db u c.comment ∨ Unmarked s.db u c.comment
  | .markRead (some m) _ => m.key = (u, requestId, .BUILDING) →
    ∀ x ∈ s.awaited u requestId, x ∈ posts missed → m.lastReadAt < x.createdAt
  | _ => True

instance decidableInTime {π : Type*} (u requestId : Id) (call : ThreadCall)
    (w : Write × List Comment) (missed : List (π × Write × List Comment)) (s : Watched) :
    Decidable (InTime u requestId call w missed s) :=
  match w with
  | (.comment _, _) | (.markRead (some _) _, _) => inferInstanceAs (Decidable (_ → _))
  | (.markRead none _, _) | (.create .., _) | (.update _, _) | (.remind .., _) | (.attach _, _)
  | (.skip, _) => isTrue trivial

section Rule

variable {π : Type*} {u : Id} {r : MaintenanceRequest} {call : ThreadCall} {s s' : Watched}
  {w : Write × List Comment} {missed : List (π × Write × List Comment)}

/-- What is known of a call between its read and its write. -/
def Understood {π : Type*} (u : Id) (r : MaintenanceRequest) (_ : ThreadCall)
    (w : Write × List Comment) (missed : List (π × Write × List Comment)) (s : Watched) : Prop :=
  match w.1 with
  | .comment c =>
    c.readState =
        some ⟨c.comment.authorUserId, c.comment.requestId, .BUILDING, c.comment.createdAt⟩ ∧
      (c.comment.requestId = r.id → c.comment.orgId = r.orgId)
  | .markRead m _ => (∃ m' ∈ m, m'.key = (u, r.id, .BUILDING)) →
    ∀ x ∈ s.db.comments, x.requestId = r.id → x ∈ w.2 ∨ x ∈ posts missed
  | _ => False

/-- Comments of the request are of its organisation, and what is awaited counts as unread. -/
structure Attended (u : Id) (r : MaintenanceRequest) (s : Watched) : Prop where
  mem : r ∈ s.db.maintenanceRequests
  orgId : ∀ x ∈ s.db.comments, x.requestId = r.id → x.orgId = r.orgId
  unmarked : ∀ x ∈ s.awaited u r.id, Unmarked s.db u x

theorem mem_awaited {requestId : Id} {x : Comment} : x ∈ s.awaited u requestId ↔
    x ∈ s.db.comments ∧ x.requestId = requestId ∧ x.authorUserId ≠ u ∧ x ∉ s.shown ∧
      ¬ Outdated s.db u x := by
  rw [Watched.awaited, List.mem_filter, decide_eq_true_eq]

theorem mem_listComments {db : Db} {orgId requestId : Id} {x : Comment} (hx : x ∈ db.comments)
    (hrequest : x.requestId = requestId) (horg : x.orgId = orgId) :
    x ∈ listComments db (some orgId) requestId none := by
  rw [listComments, List.mem_insertionSort, List.mem_filter]
  exact ⟨hx, decide_eq_true ⟨hrequest, decide_eq_true horg, rfl⟩⟩

theorem understood_plan (hs : Attended u r s) (h : (watchMachine u).plan call s = .ok w) :
    Understood (π := π) u r call w [] s := by
  obtain ⟨w₀, hplan, hw⟩ := Outcome.bind_eq_ok.mp h
  obtain rfl := Outcome.pure_eq_ok.mp hw
  cases call with
  | addBuildingComment env user buildingId requestId dto =>
    simp only [ThreadCall.env, ThreadCall.operation, plan, addBuildingComment, Outcome.bind_eq_ok,
      Outcome.pure_eq_ok] at hplan
    obtain ⟨entry, -, request, hload, -, -, rfl⟩ := hplan
    obtain ⟨hmem, hp⟩ := Table.findFirst_some (Outcome.orThrow_eq_ok.mp hload)
    refine ⟨rfl, fun hid => ?_⟩
    obtain rfl := Table.eq_of_key_eq hmem hs.mem hid
    exact (of_decide_eq_true hp).2.1.symm
  | listBuildingComments env user buildingId requestId =>
    simp only [ThreadCall.env, ThreadCall.operation, plan, listBuildingComments,
      Outcome.bind_eq_ok, Outcome.pure_eq_ok] at hplan
    obtain ⟨entry, henter, request, hload, -, -, rfl⟩ := hplan
    obtain ⟨huser, horg, -⟩ := enterBuilding_caller henter
    obtain ⟨hmem, hp⟩ := Table.findFirst_some (Outcome.orThrow_eq_ok.mp hload)
    obtain ⟨hid, hrequestOrg, -⟩ := of_decide_eq_true hp
    rintro ⟨m, hm, hkey⟩ x hx hrequest
    obtain ⟨last, -, rfl⟩ := Option.map_eq_some_iff.mp hm
    obtain ⟨hu, hr, -⟩ : entry.userId = u ∧ request.id = r.id ∧ _ := by
      simpa only [CommentReadState.key, Prod.mk.injEq] using hkey
    obtain rfl := Table.eq_of_key_eq hmem hs.mem hr
    refine .inl ?_
    rw [ThreadCall.shows, if_pos (huser.trans (congrArg some hu)), horg, ← hid]
    exact mem_listComments hx hrequest ((hs.orgId x hx hrequest).trans hrequestOrg)

theorem commit_watch (hw : Understood u r call w missed s)
    (h : (watchMachine u).commit call w s = .ok s') :
    s'.db.maintenanceRequests = s.db.maintenanceRequests ∧
      s'.db.comments = s.db.comments ++ w.1.posted.toList ∧ s'.shown = s.shown ++ w.2 ∧
      ∀ k, s'.db.commentReadStates.findUnique k =
        (w.1.mark.filter fun m => m.key = k).or (s.db.commentReadStates.findUnique k) := by
  obtain ⟨db', hcommit, hs'⟩ := Outcome.bind_eq_ok.mp h
  obtain rfl := Outcome.pure_eq_ok.mp hs'
  obtain ⟨w, shown⟩ := w
  cases w with
  | comment c =>
    obtain rfl := Except.ok.inj hcommit
    exact ⟨upsertReadStates_requests _ _, rfl, rfl, findUnique_upsertReadStates _ _⟩
  | markRead m o =>
    obtain rfl := Except.ok.inj hcommit
    refine ⟨upsertReadStates_requests _ _, ?_, rfl, findUnique_upsertReadStates _ _⟩
    exact (upsertReadStates_comments _ _).trans (List.append_nil _).symm
  | _ => exact hw.elim

theorem attended_commit (hs : Attended u r s) (hw : Understood u r call w missed s)
    (htime : InTime u r.id call w missed s) (h : (watchMachine u).commit call w s = .ok s') :
    Attended u r s' := by
  obtain ⟨hrequests, hcomments, hshown, hmarks⟩ := commit_watch hw h
  have hkeep {x : Comment} (hx : x ∈ s.db.comments) (haw : x ∈ s'.awaited u r.id) :
      x ∈ s.awaited u r.id ∧ x ∉ w.2 := by
    obtain ⟨-, hrequest, hauthor, hunshown, hcurrent⟩ := mem_awaited.mp haw
    rw [hshown, List.mem_append, not_or] at hunshown
    refine ⟨mem_awaited.mpr ⟨hx, hrequest, hauthor, hunshown.1, fun hold => hcurrent ?_⟩,
      hunshown.2⟩
    obtain ⟨y, hy, hrest⟩ := hold
    exact ⟨y, hcomments ▸ List.mem_append_left _ hy, hrest⟩
  have hmark {x : Comment} (hold : Unmarked s.db u x)
      (hnew : ∀ m, w.1.mark = some m → m.key = (u, x.requestId, .BUILDING) →
        m.lastReadAt < x.createdAt) : Unmarked s'.db u x := by
    intro m hm
    rw [hmarks, Option.mem_def, Option.or_eq_some_iff] at hm
    rcases hm with hm | ⟨-, hm⟩
    · obtain ⟨hm, hkey⟩ := Option.filter_eq_some_iff.mp hm
      exact hnew m hm (of_decide_eq_true hkey)
    · exact hold m hm
  obtain ⟨w, shown⟩ := w
  cases w with
  | comment c =>
    obtain ⟨hread, horg⟩ := hw
    have hcases {x : Comment} : x ∈ s'.db.comments ↔ x ∈ s.db.comments ∨ x = c.comment := by
      rw [hcomments]
      exact List.mem_append.trans (or_congr_right List.mem_singleton)
    refine ⟨hrequests ▸ hs.mem, fun x hx hid => ?_, fun x hx => ?_⟩
    · rcases hcases.mp hx with hx | rfl
      · exact hs.orgId x hx hid
      · exact horg hid
    · obtain ⟨hmem, hrequest, hauthor, hunshown, hcurrent⟩ := mem_awaited.mp hx
      rcases hcases.mp hmem with hold | rfl
      · obtain ⟨haw, -⟩ := hkeep hold hx
        refine hmark (hs.unmarked x haw) fun m hm hkey => ?_
        obtain rfl := Option.some.inj (hread.symm.trans hm)
        obtain ⟨huser, hsame, -⟩ : c.comment.authorUserId = u ∧
            c.comment.requestId = x.requestId ∧ _ := by
          simpa only [CommentReadState.key, Prod.mk.injEq] using hkey
        have hne : x.createdAt ≠ c.comment.createdAt := by
          have htime := htime (hsame.trans hrequest)
          rw [if_pos huser] at htime
          exact htime x haw
        refine lt_of_le_of_ne (not_lt.mp fun hlt => hcurrent ?_) hne.symm
        exact ⟨c.comment, hcases.mpr (.inr rfl), hsame, huser, hlt⟩
      · have htime := htime hrequest
        rw [if_neg hauthor] at htime
        rcases htime with hold | hnew
        · obtain ⟨y, hy, hrest⟩ := hold
          exact absurd ⟨y, hcases.mpr (.inl hy), hrest⟩ hcurrent
        · refine hmark hnew fun m hm hkey => ?_
          obtain rfl := Option.some.inj (hread.symm.trans hm)
          exact absurd (congrArg Prod.fst hkey) hauthor
  | markRead m o =>
    have hsame : s'.db.comments = s.db.comments := hcomments.trans (List.append_nil _)
    refine ⟨hrequests ▸ hs.mem, fun x hx => hs.orgId x (hsame ▸ hx), fun x hx => ?_⟩
    obtain ⟨hmem, hrequest, -⟩ := mem_awaited.mp hx
    obtain ⟨haw, hnot⟩ := hkeep (hsame ▸ hmem) hx
    refine hmark (hs.unmarked x haw) fun m' hm' hkey => ?_
    obtain rfl : m = some m' := hm'
    rw [hrequest] at hkey
    have hseen := hw ⟨m', rfl, hkey⟩ x (hsame ▸ hmem) hrequest
    exact htime hkey x haw (hseen.resolve_left hnot)
  | _ => exact hw.elim

theorem understood_commit {call' : ThreadCall} {w' : Write × List Comment}
    {missed' : List (π × Write × List Comment)} {q : π} (hw : Understood u r call w missed s)
    (hw' : Understood u r call' w' missed' s) (h : (watchMachine u).commit call' w' s = .ok s') :
    Understood u r call w (missed ++ [(q, w')]) s' := by
  obtain ⟨-, hcomments, -⟩ := commit_watch hw' h
  obtain ⟨w, shown⟩ := w
  cases w with
  | comment c => exact hw
  | markRead m o =>
    intro hm x hx hrequest
    rw [hcomments, List.mem_append] at hx
    rw [posts, List.filterMap_append, List.mem_append, ← or_assoc]
    rcases hx with hx | hx
    · exact .inl (hw hm x hx hrequest)
    · refine .inr (List.mem_filterMap.mpr ⟨(q, w'), List.mem_singleton_self _, ?_⟩)
      exact Option.mem_toList.mp hx
  | _ => exact hw.elim

theorem filter_sublist_filter {α : Type} {l : List α} {p q : α → Bool}
    (h : ∀ a ∈ l, p a = true → q a = true) : (l.filter p).Sublist (l.filter q) := by
  have hp : l.filter p = (l.filter q).filter p := by
    rw [List.filter_filter]
    refine List.filter_congr fun a ha => ?_
    cases hpa : p a with
    | false => rfl
    | true => rw [h a ha hpa, Bool.and_self]
  rw [hp]
  exact List.filter_sublist

theorem listByBuilding_of_listed {env : Env} {db : Db} {user : Option AuthenticatedUser}
    {buildingId : Id} {w : Write} (hr : r ∈ db.maintenanceRequests)
    (h : listBuildingComments env db user buildingId r.id = .ok w) :
    ∃ entry, enterBuilding env user buildingId = .ok entry ∧ r.orgId = entry.orgId ∧
      r ∈ listByBuilding db entry.orgId buildingId none entry.assignedToUserId := by
  simp only [listBuildingComments, Outcome.bind_eq_ok] at h
  obtain ⟨entry, henter, request, hload, hown, hassigned, -⟩ := h
  obtain ⟨hmem, hp⟩ := Table.findFirst_some (Outcome.orThrow_eq_ok.mp hload)
  obtain ⟨hid, horg, hbuilding⟩ := of_decide_eq_true hp
  obtain rfl := Table.eq_of_key_eq hmem hr hid
  refine ⟨entry, henter, horg, ?_⟩
  rw [listByBuilding, List.mem_insertionSort, List.mem_filter]
  refine ⟨hr, decide_eq_true ⟨horg, hbuilding, rfl, ?_⟩⟩
  rw [BuildingEntry.assignedToUserId]
  split_ifs with hstaff
  · have hmine : request.assignedToUserId = some entry.userId := by
      by_contra hother
      exact Outcome.throwIf_eq_ok.mp hassigned ⟨hstaff, hother⟩
    refine (Option.all_eq_true ..).mpr fun userId huserId => decide_eq_true ?_
    rw [hmine, (truthy_eq_some.mp huserId).1]
  · rfl

theorem Attended.counted (hs : Attended u r s) {env : Env} {user : Option AuthenticatedUser}
    {buildingId : Id} {w : Write} (huser : user.map (·.sub) = some u)
    (h : listBuildingComments env s.db user buildingId r.id = .ok w) :
    ∃ counted, countUnreadBuildingComments env s.db user buildingId = .ok counted ∧
      ((s.awaited u r.id).map fun x => ⟨x.requestId, x.createdAt⟩).Sublist counted := by
  obtain ⟨entry, henter, horg, hlisted⟩ := listByBuilding_of_listed hs.mem h
  obtain ⟨hentry, -⟩ := enterBuilding_caller henter
  obtain rfl : entry.userId = u := Option.some.inj (hentry.symm.trans huser)
  refine ⟨_, Outcome.bind_eq_ok.mpr ⟨entry, henter, rfl⟩, ?_⟩
  rw [countUnreadCommentsForRequests_eq, listCommentTimestamps, List.filter_map,
    List.filter_filter]
  refine List.Sublist.map _ (filter_sublist_filter fun x hx haw => ?_)
  obtain ⟨hrequest, hauthor, -⟩ := of_decide_eq_true haw
  refine Bool.and_eq_true_iff.mpr ⟨(Option.all_eq_true ..).mpr fun m hm => ?_, ?_⟩
  · have hmem : x ∈ s.awaited entry.userId r.id := List.mem_filter.mpr ⟨hx, haw⟩
    exact decide_eq_true (hs.unmarked x hmem m hm)
  · refine decide_eq_true ⟨(Option.all_eq_true ..).mpr fun orgId horgId => ?_, ?_, hauthor, rfl⟩
    · obtain rfl := Option.some.inj (truthy_eq_some.mp horgId).1
      exact decide_eq_true ((hs.orgId x hx hrequest).trans horg)
    · rw [hrequest]
      exact List.mem_map_of_mem hlisted

end Rule

section Runs

variable {π : Type*} [DecidableEq π]

/-- What was reached once the calls have taken these turns. -/
def watch (u : Id) (call : π → ThreadCall) (db : Db) (turns : List (Move π)) : Watched :=
  (Run.exec (ReadWrite.next (watchMachine u) call) (Config.start ⟨db, []⟩) turns).cell

/-- Nothing of the request is marked as read by `u` yet. -/
structure Unread (u : Id) (r : MaintenanceRequest) (db : Db) : Prop where
  mem : r ∈ db.maintenanceRequests
  orgId : ∀ x ∈ db.comments, x.requestId = r.id → x.orgId = r.orgId
  unmarked : db.commentReadStates.findUnique (u, r.id, .BUILDING) = none

theorem awaited_comments_counted {u : Id} {r : MaintenanceRequest} {db : Db} (hdb : Unread u r db)
    (call : π → ThreadCall) (turns : List (Move π))
    (htime : Run.Along (ReadWrite.next (watchMachine u) call)
      (ReadWrite.AtWrite call (InTime u r.id)) (Config.start ⟨db, []⟩) turns)
    {env : Env} {user : Option AuthenticatedUser} {buildingId : Id} {w : Write}
    (huser : user.map (·.sub) = some u)
    (h : listBuildingComments env (watch u call db turns).db user buildingId r.id = .ok w) :
    ∃ counted,
      countUnreadBuildingComments env (watch u call db turns).db user buildingId = .ok counted ∧
        (((watch u call db turns).awaited u r.id).map fun x =>
          ⟨x.requestId, x.createdAt⟩).Sublist counted := by
  have hstart : Attended u r ⟨db, []⟩ := by
    refine ⟨hdb.mem, hdb.orgId, fun x hx m hm => ?_⟩
    rw [(mem_awaited.mp hx).2.1, hdb.unmarked] at hm
    cases hm
  have hrun := ReadWrite.coherent_exec (I := Attended u r) (J := Understood u r)
    (fun _ _ _ => understood_plan) (fun _ _ _ _ _ => attended_commit)
    (fun _ _ _ _ _ _ _ _ _ hw hw' _ => understood_commit hw hw')
    (ReadWrite.coherent_start hstart) htime
  exact hrun.cell.counted huser h

/-- A building with two managers. -/
def office (now : Date) (freshId : Id) : Env :=
  { sceneEnv "org" "building" now with
    freshId
    world := { scene "org" "building" with
      access := { sceneAccess "org" with
        userAccessAssignments := ⟨["manager", "deputy"].map fun userId =>
          ⟨userId, userId, "managers", .ORG, none⟩, by simp⟩ }
      directory := { sceneDirectory "org" "building" with
        users := ⟨["manager", "deputy"].map (sceneUser "org"), by simp [sceneUser]⟩ } } }

def tapRequest : Db := run .empty [residentCreates 0 "Tap"]

/-- The deputy comments, the manager lists the comments, the deputy comments again. -/
def officeCall (again : Date) : Fin 3 → ThreadCall
  | 0 => .addBuildingComment (office 5 "first") (some ⟨"deputy", some "org"⟩) "building" "request"
    ⟨"Ordered", .undefined⟩
  | 1 => .listBuildingComments (office 5 "") (manager "org") "building" "request"
  | 2 => .addBuildingComment (office again "second") (some ⟨"deputy", some "org"⟩) "building"
    "request" ⟨"Delivered", .undefined⟩

def inTurn : List (Move (Fin 3)) :=
  (List.finRange 3).flatMap fun call => [.read call, .write call]

theorem tapRequest_stored :
    (tapRequest.maintenanceRequests.findUnique "request").isSome = true := by
  decide +kernel

def tapRow : MaintenanceRequest := Option.get _ tapRequest_stored

theorem tapRequest_unread : Unread "manager" tapRow tapRequest :=
  ⟨by decide +kernel, by decide +kernel, by decide +kernel⟩

theorem later_comment_counted : ∃ counted,
    countUnreadBuildingComments (office 7 "") (watch "manager" (officeCall 6) tapRequest inTurn).db
        (manager "org") "building" = .ok counted ∧
      List.Sublist [⟨"request", 6⟩] counted := by
  have hlist : (listBuildingComments (office 7 "")
      (watch "manager" (officeCall 6) tapRequest inTurn).db (manager "org") "building"
        tapRow.id).toBool = true := by decide +kernel
  cases h : listBuildingComments (office 7 "")
      (watch "manager" (officeCall 6) tapRequest inTurn).db (manager "org") "building"
        tapRow.id with
  | error e => simp [h, Except.toBool] at hlist
  | ok w =>
    have hcounted := awaited_comments_counted tapRequest_unread (officeCall 6) inTurn
      (by decide +kernel) rfl h
    have hawaited : (((watch "manager" (officeCall 6) tapRequest inTurn).awaited "manager"
        tapRow.id).map fun x => (⟨x.requestId, x.createdAt⟩ : CommentTimestamp)) =
          [⟨"request", 6⟩] := by decide +kernel
    rwa [hawaited] at hcounted

/-- Stored in the millisecond of a comment that the listing gave back, a comment counts as read. -/
theorem simultaneous_comment_lost :
    ((watch "manager" (officeCall 5) tapRequest inTurn).awaited "manager" "request").map
        (fun x => (x.message, x.createdAt)) = [("Delivered", 5)] ∧
      (countUnreadBuildingComments (office 7 "")
        (watch "manager" (officeCall 5) tapRequest inTurn).db (manager "org")
          "building").toOption = some [] := by
  decide +kernel

end Runs

end Towerdesk.Maintenance
