import Towerdesk.Leases.Operation

/-!
# The books

The tables the results on leases are about, without the constraints they carry: what
a write does to them, and what the writes that do not touch them leave alone.
-/

namespace Towerdesk.Leases

def LeaseIsOver (l : Lease) : Prop := l.status = .ENDED ∨ l.status = .CANCELLED

instance (l : Lease) : Decidable (LeaseIsOver l) := inferInstanceAs (Decidable (_ ∨ _))

structure Books where
  leases : Table Lease.id
  occupancies : Table Occupancy.id
  moveInRequests : Table MoveRequest.id
  moveOutRequests : Table MoveRequest.id
  parkingAllocations : Table ParkingAllocation.id
  history : List LeaseHistory

namespace Books

def requests (b : Books) : MoveRequestKind → Table MoveRequest.id
  | .MOVE_IN => b.moveInRequests
  | .MOVE_OUT => b.moveOutRequests

def withRequests (b : Books) : MoveRequestKind → Table MoveRequest.id → Books
  | .MOVE_IN, t => { b with moveInRequests := t }
  | .MOVE_OUT, t => { b with moveOutRequests := t }

variable (b : Books) (kind other : MoveRequestKind) (t : Table MoveRequest.id)

@[simp] theorem leases_withRequests : (b.withRequests kind t).leases = b.leases := by
  cases kind <;> rfl

@[simp] theorem occupancies_withRequests :
    (b.withRequests kind t).occupancies = b.occupancies := by
  cases kind <;> rfl

@[simp] theorem parkingAllocations_withRequests :
    (b.withRequests kind t).parkingAllocations = b.parkingAllocations := by
  cases kind <;> rfl

@[simp] theorem history_withRequests : (b.withRequests kind t).history = b.history := by
  cases kind <;> rfl

@[simp] theorem requests_withRequests :
    (b.withRequests kind t).requests other = if other = kind then t else b.requests other := by
  cases kind <;> cases other <;> rfl

end Books

def Db.books (db : Db) : Books where
  leases := db.leases.table
  occupancies := db.occupancies.table
  moveInRequests := db.moveInRequests.table
  moveOutRequests := db.moveOutRequests.table
  parkingAllocations := db.parkingAllocations
  history := db.history

theorem Db.requests_books (db : Db) (kind : MoveRequestKind) :
    db.books.requests kind = (db.moveRequests kind).table := by
  cases kind <;> rfl

section Writes

variable {db db' : Db}

theorem books_lease {w : Table.Write Lease.id} (h : (DbWrite.lease w).apply db = .ok db') :
    ∃ t, w.apply db.books.leases = (.ok t : Except DbError _) ∧
      db'.books = { db.books with leases := t } := by
  obtain ⟨leases, hwrite, rfl⟩ := Outcome.map_eq_ok.mp h
  exact ⟨leases.table, Constrained.write_eq_ok.mp hwrite, rfl⟩

theorem books_occupancy {w : Table.Write Occupancy.id}
    (h : (DbWrite.occupancy w).apply db = .ok db') :
    ∃ t, w.apply db.books.occupancies = (.ok t : Except DbError _) ∧
      db'.books = { db.books with occupancies := t } := by
  obtain ⟨occupancies, hwrite, rfl⟩ := Outcome.map_eq_ok.mp h
  exact ⟨occupancies.table, Constrained.write_eq_ok.mp hwrite, rfl⟩

theorem books_moveRequest {kind : MoveRequestKind} {w : Table.Write MoveRequest.id}
    (h : (DbWrite.moveRequest kind w).apply db = .ok db') :
    ∃ t, w.apply (db.books.requests kind) = (.ok t : Except DbError _) ∧
      db'.books = db.books.withRequests kind t := by
  obtain ⟨requests, hwrite, rfl⟩ := Outcome.map_eq_ok.mp h
  refine ⟨requests.table, ?_, ?_⟩
  · rw [Db.requests_books]
    exact Constrained.write_eq_ok.mp hwrite
  · cases kind <;> rfl

theorem books_parkingAllocation {w : Table.Write ParkingAllocation.id}
    (h : (DbWrite.parkingAllocation w).apply db = .ok db') :
    ∃ t, w.apply db.books.parkingAllocations = (.ok t : Except DbError _) ∧
      db'.books = { db.books with parkingAllocations := t } := by
  obtain ⟨parkingAllocations, hwrite, rfl⟩ := Outcome.map_eq_ok.mp h
  exact ⟨parkingAllocations, hwrite, rfl⟩

theorem books_history {row : LeaseHistory} (h : (DbWrite.history row).apply db = .ok db') :
    db'.books = { db.books with history := db.books.history ++ [row] } := by
  obtain rfl := Except.ok.inj h
  rfl

def historyRows (before after : Lease) (action : LeaseHistoryAction)
    (user : Option AuthenticatedUser) (now : Date) : List LeaseHistory :=
  if buildLeaseChangeSet before after = [] then [] else
    [⟨before.orgId, before.id, action, user.map (·.sub), buildLeaseChangeSet before after, now⟩]

theorem books_changeSet {before after : Lease} {action : LeaseHistoryAction}
    {user : Option AuthenticatedUser} {now : Date}
    (hafter : db.books.leases.findUnique before.id = some after)
    (h : (DbWrite.changeSet before action (user.map (·.sub)) now).apply db = .ok db') :
    db'.books = { db.books with
      history := db.books.history ++ historyRows before after action user now } := by
  obtain rfl := Except.ok.inj h
  have hrows : db.changeSetRows before action (user.map (·.sub)) now =
      historyRows before after action user now := by
    unfold Db.changeSetRows
    rw [show db.leases.table.findUnique before.id = some after from hafter]
    rfl
  simp only [Db.books, hrows]

def DbWrite.isQuiet : DbWrite → Bool
  | .lease _ | .occupancy _ | .moveRequest _ _ | .parkingAllocation _ | .history _
  | .changeSet _ _ _ _ => false
  | _ => true

theorem books_quiet {w : DbWrite} (hw : w.isQuiet = true) (h : w.apply db = .ok db') :
    db'.books = db.books := by
  cases w with
  | lease _ | occupancy _ | moveRequest _ _ | parkingAllocation _ | history _
  | changeSet _ _ _ _ => simp [DbWrite.isQuiet] at hw
  | user w =>
    obtain ⟨users, -, h⟩ := Outcome.bind_eq_ok.mp h
    split at h
    · cases h
    · exact (Except.ok.inj h) ▸ rfl
  | accessCard w | parkingSticker w | vehicle w =>
    obtain ⟨t, -, rfl⟩ := Outcome.map_eq_ok.mp h
    rfl
  | upsertProfile p =>
    obtain rfl := Except.ok.inj h
    unfold Db.upsertProfile
    split <;> rfl
  | clearTerms _ | term _ | activity _ | replaceOccupants _ _ | document _ | notification _ =>
    exact (Except.ok.inj h) ▸ rfl

theorem activity_grows {w : DbWrite} (h : w.apply db = .ok db') :
    db.activity <+: db'.activity := by
  cases w with
  | user w =>
    obtain ⟨users, -, h⟩ := Outcome.bind_eq_ok.mp h
    split at h
    · cases h
    · exact (Except.ok.inj h) ▸ List.prefix_refl _
  | lease w | occupancy w | accessCard w | parkingSticker w | parkingAllocation w | vehicle w =>
    obtain ⟨t, -, rfl⟩ := Outcome.map_eq_ok.mp h
    exact List.prefix_refl _
  | moveRequest kind w =>
    obtain ⟨t, -, rfl⟩ := Outcome.map_eq_ok.mp h
    cases kind <;> exact List.prefix_refl _
  | upsertProfile p =>
    obtain rfl := Except.ok.inj h
    unfold Db.upsertProfile
    split <;> exact List.prefix_refl _
  | activity row =>
    obtain rfl := Except.ok.inj h
    exact List.prefix_append _ _
  | clearTerms _ | term _ | history _ | changeSet _ _ _ _ | replaceOccupants _ _ | document _
  | notification _ =>
    exact (Except.ok.inj h) ▸ List.prefix_refl _

end Writes

section Plans

variable {raise : DbError → HttpException} {plan : Plan} {db db' : Db}

theorem commit_quiet (hquiet : ∀ w ∈ Transaction.writes plan, w.isQuiet = true)
    (h : Transaction.commit DbWrite.apply raise plan db = .ok db') : db'.books = db.books :=
  Transaction.commit_rel (R := fun db db' : Db => db'.books = db.books) (fun _ => rfl)
    (fun hab hbc => hbc.trans hab) (fun w hw _ _ happly => books_quiet (hquiet w hw) happly) h

theorem commit_activity_grows (h : Transaction.commit DbWrite.apply raise plan db = .ok db') :
    db.activity <+: db'.activity :=
  Transaction.commit_rel (R := fun db db' : Db => db.activity <+: db'.activity)
    (fun _ => List.prefix_refl _) List.IsPrefix.trans
    (fun _ _ _ _ happly => activity_grows happly) h

theorem commit_activity (h : Transaction.commit DbWrite.apply raise plan db = .ok db') :
    db.activity ⊆ db'.activity :=
  (commit_activity_grows h).subset

theorem commit_activity_lt (hrow : ∃ row, DbWrite.activity row ∈ Transaction.writes plan)
    (h : Transaction.commit DbWrite.apply raise plan db = .ok db') :
    db.activity.length < db'.activity.length := by
  obtain ⟨row, hrow⟩ := hrow
  induction plan generalizing db with
  | nil => simp at hrow
  | cons st plan ih =>
    cases st with
    | require p e =>
      obtain ⟨-, h⟩ := Transaction.commit_require.mp h
      exact ih h hrow
    | write w =>
      obtain ⟨db₁, hwrite, h⟩ := Transaction.commit_write.mp h
      rw [Transaction.writes_write, List.mem_cons] at hrow
      rcases hrow with rfl | hrow
      · obtain rfl := Except.ok.inj hwrite
        have hrest := (commit_activity_grows h).length_le
        simp only [List.length_append, List.length_singleton] at hrest
        omega
      · exact lt_of_le_of_lt (activity_grows hwrite).length_le (ih h hrow)

end Plans

end Towerdesk.Leases
