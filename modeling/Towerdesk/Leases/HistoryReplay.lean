import Towerdesk.Lib.Replay
import Towerdesk.Leases.Scene

/-!
# Replaying the history of a lease

The change sets of a lease, replayed in the order they were recorded, give its tracked
fields. A change of status by activation or cancellation is recorded as an activity of
the lease instead, so the status is replayed only for leases without one.
-/

namespace Towerdesk.Leases

def leaseChanges (history : List LeaseHistory) (leaseId : Id) : List LeaseHistoryFieldChange :=
  (history.filter (·.leaseId = leaseId)).flatMap (·.changes)

/-- The last value recorded for a field, `null` when none was. -/
def replayHistory (history : List LeaseHistory) (leaseId : Id) (field : TrackedLeaseField) :
    JsonValue :=
  Replay.replay LeaseHistoryFieldChange.field LeaseHistoryFieldChange.after
    (leaseChanges history leaseId) .null field

/-- Neither activated nor cancelled, as far as its activities say. -/
def Unmarked (db : Db) (leaseId : Id) : Prop :=
  ∀ row ∈ db.activity, row.leaseId = leaseId →
    row.action ≠ .CONTRACT_ACTIVATED ∧ row.action ≠ .CONTRACT_CANCELLED

instance (db : Db) (leaseId : Id) : Decidable (Unmarked db leaseId) :=
  inferInstanceAs (Decidable (∀ row ∈ db.activity, _))

section ChangeSets

variable {previous current : TrackedLeaseField → JsonValue} {field : TrackedLeaseField}
  {history : List LeaseHistory} {leaseId : Id}

theorem mem_leaseTrackedFields (field : TrackedLeaseField) : field ∈ leaseTrackedFields := by
  cases field <;> decide

theorem mem_changesBetween {change : LeaseHistoryFieldChange} :
    change ∈ changesBetween previous current ↔ change.before = previous change.field ∧
      change.after = current change.field ∧ change.before ≠ change.after := by
  simp only [changesBetween, List.mem_filter, List.mem_map, decide_eq_true_eq]
  constructor
  · rintro ⟨⟨field, -, rfl⟩, hne⟩
    exact ⟨rfl, rfl, hne⟩
  · rintro ⟨hbefore, hafter, hne⟩
    refine ⟨⟨change.field, mem_leaseTrackedFields _, ?_⟩, hne⟩
    rw [← hbefore, ← hafter]

theorem replay_changesBetween {v : JsonValue} (hv : v = previous field) :
    Replay.replay LeaseHistoryFieldChange.field LeaseHistoryFieldChange.after
      (changesBetween previous current) v field = current field := by
  refine Replay.replay_differences (fun change hc => (mem_changesBetween.mp hc).2.1) ?_ hv
  intro hne
  exact ⟨⟨field, previous field, current field⟩, mem_changesBetween.mpr ⟨rfl, rfl, hne⟩, rfl⟩

theorem replayHistory_append (rows : List LeaseHistory) :
    replayHistory (history ++ rows) leaseId field =
      Replay.replay LeaseHistoryFieldChange.field LeaseHistoryFieldChange.after
        (leaseChanges rows leaseId) (replayHistory history leaseId field) field := by
  simp only [replayHistory, leaseChanges, List.filter_append, List.flatMap_append,
    Replay.replay_append]

theorem leaseChanges_of_ne {rows : List LeaseHistory} (h : ∀ row ∈ rows, row.leaseId ≠ leaseId) :
    leaseChanges rows leaseId = [] := by
  have hnone : rows.filter (·.leaseId = leaseId) = [] :=
    List.filter_eq_nil_iff.mpr fun row hrow => by simp [h row hrow]
  rw [leaseChanges, hnone, List.flatMap_nil]

theorem replayHistory_append_of_ne {rows : List LeaseHistory}
    (h : ∀ row ∈ rows, row.leaseId ≠ leaseId) :
    replayHistory (history ++ rows) leaseId field = replayHistory history leaseId field := by
  rw [replayHistory_append, leaseChanges_of_ne h]
  rfl

theorem replayHistory_of_ne (h : ∀ row ∈ history, row.leaseId ≠ leaseId) :
    replayHistory history leaseId field = .null := by
  rw [replayHistory, leaseChanges_of_ne h]
  rfl

theorem leaseId_of_mem_historyRows {before after : Lease} {action : LeaseHistoryAction}
    {user : Option AuthenticatedUser} {now : Date} {row : LeaseHistory}
    (h : row ∈ historyRows before after action user now) : row.leaseId = before.id := by
  unfold historyRows at h
  split_ifs at h
  · cases h
  · rw [List.mem_singleton.mp h]

theorem leaseChanges_historyRows {before after : Lease} {action : LeaseHistoryAction}
    {user : Option AuthenticatedUser} {now : Date} :
    leaseChanges (historyRows before after action user now) before.id =
      buildLeaseChangeSet before after := by
  unfold historyRows
  split_ifs with hnil
  · rw [hnil]
    rfl
  · simp [leaseChanges]

theorem replayHistory_historyRows {before after : Lease} {action : LeaseHistoryAction}
    {user : Option AuthenticatedUser} {now : Date}
    (h : replayHistory history before.id field = normalizeLeaseValue before field) :
    replayHistory (history ++ historyRows before after action user now) before.id field =
      normalizeLeaseValue after field := by
  rw [replayHistory_append, leaseChanges_historyRows, buildLeaseChangeSet]
  exact replay_changesBetween h

theorem replayHistory_createdRow {env : Env} {user : Option AuthenticatedUser} {l : Lease}
    (hnew : ∀ row ∈ history, row.leaseId ≠ l.id) :
    replayHistory (history ++ [createdRow env user l]) l.id field =
      normalizeLeaseValue l field := by
  have hchanges : leaseChanges [createdRow env user l] l.id = buildLeaseCreationChangeSet l := by
    simp [leaseChanges, createdRow]
  rw [replayHistory_append, hchanges, buildLeaseCreationChangeSet]
  exact replay_changesBetween (replayHistory_of_ne hnew)

end ChangeSets

/-- Every history row belongs to a lease, and the rows of a lease replay to it. -/
structure Replayed (db : Db) : Prop where
  known : ∀ row ∈ db.books.history, ∃ l ∈ db.books.leases, l.id = row.leaseId
  replays : ∀ l ∈ db.books.leases, ∀ field, (field = .status → Unmarked db l.id) →
    replayHistory db.books.history l.id field = normalizeLeaseValue l field

section Step

variable {env : Env} {op : Operation} {db db' : Db} {user : Option AuthenticatedUser} {l : Lease}

theorem Unmarked.of_subset {leaseId : Id} (h : Unmarked db' leaseId)
    (hactivity : db.activity ⊆ db'.activity) : Unmarked db leaseId :=
  fun row hrow => h row (hactivity hrow)

theorem Recorded.not_unmarked {leaseId : Id} {action : LeaseActivityAction}
    (h : Recorded db leaseId action)
    (haction : action = .CONTRACT_ACTIVATED ∨ action = .CONTRACT_CANCELLED) :
    ¬ Unmarked db leaseId := by
  obtain ⟨row, hrow, hlease, rfl⟩ := h
  intro hunmarked
  obtain ⟨hactivated, hcancelled⟩ := hunmarked row hrow hlease
  rcases haction with h | h
  · exact hactivated h
  · exact hcancelled h

theorem Replayed.of_eq (h : Replayed db) (hactivity : db.activity ⊆ db'.activity)
    (hleases : db'.books.leases = db.books.leases)
    (hhistory : db'.books.history = db.books.history) : Replayed db' where
  known := by
    rw [hleases, hhistory]
    exact h.known
  replays := by
    rw [hleases, hhistory]
    exact fun l hl field hstatus =>
      h.replays l hl field fun hfield => (hstatus hfield).of_subset hactivity

theorem Replayed.create (h : Replayed db) (hactivity : db.activity ⊆ db'.activity)
    (hleases : db.books.leases.insert l = some db'.books.leases)
    (hhistory : db'.books.history = db.books.history ++ [createdRow env user l]) :
    Replayed db' where
  known row hrow := by
    rw [hhistory, List.mem_append, List.mem_singleton] at hrow
    rcases hrow with hrow | rfl
    · obtain ⟨x, hx, hid⟩ := h.known row hrow
      exact ⟨x, (Table.mem_insert hleases).mpr (.inl hx), hid⟩
    · exact ⟨l, (Table.mem_insert hleases).mpr (.inr rfl), rfl⟩
  replays x hx field hstatus := by
    rw [hhistory]
    rcases (Table.mem_insert hleases).mp hx with hx | rfl
    · have hne : x.id ≠ l.id := Table.fresh_of_insert hleases hx
      rw [replayHistory_append_of_ne (by simpa [createdRow] using hne.symm)]
      exact h.replays x hx field fun hfield => (hstatus hfield).of_subset hactivity
    · refine replayHistory_createdRow fun row hrow heq => ?_
      obtain ⟨y, hy, hid⟩ := h.known row hrow
      exact Table.fresh_of_insert hleases hy (hid.trans heq)

theorem Replayed.change {p : Patch Lease.id} {rows : List LeaseHistory} {x : Lease}
    (h : Replayed db) (hactivity : db.activity ⊆ db'.activity) (hx : x ∈ db.books.leases)
    (hleases : db'.books.leases = db.books.leases.modify x.id p)
    (hhistory : db'.books.history = db.books.history ++ rows)
    (hrows : ∀ row ∈ rows, row.leaseId = x.id)
    (hreplay : ∀ field, (field = .status → Unmarked db' x.id) →
      replayHistory db.books.history x.id field = normalizeLeaseValue x field →
      replayHistory (db.books.history ++ rows) x.id field = normalizeLeaseValue (p.apply x) field) :
    Replayed db' where
  known row hrow := by
    have hold : ∀ y ∈ db.books.leases, ∃ z ∈ db'.books.leases, z.id = y.id := by
      intro y hy
      rw [hleases]
      by_cases hyx : y.id = x.id
      · exact ⟨p.apply x, Table.apply_mem_modify hx, (p.key_apply x).trans hyx.symm⟩
      · exact ⟨y, Table.mem_modify_of_ne hy hyx, rfl⟩
    rw [hhistory, List.mem_append] at hrow
    rcases hrow with hrow | hrow
    · obtain ⟨y, hy, hid⟩ := h.known row hrow
      rw [← hid]
      exact hold y hy
    · rw [hrows row hrow]
      exact hold x hx
  replays y hy field hstatus := by
    rw [hleases] at hy
    rw [hhistory]
    rcases (Table.mem_modify_iff hx).mp hy with rfl | ⟨hy, hne⟩
    · rw [p.key_apply] at hstatus ⊢
      exact hreplay field hstatus
        (h.replays x hx field fun hfield => (hstatus hfield).of_subset hactivity)
    · rw [replayHistory_append_of_ne fun row hrow => (hrows row hrow) ▸ hne.symm]
      exact h.replays y hy field fun hfield => (hstatus hfield).of_subset hactivity

theorem Replayed.record {p : Patch Lease.id} {action : LeaseHistoryAction} (h : Replayed db)
    (hactivity : db.activity ⊆ db'.activity) (hl : l ∈ db.books.leases)
    (hleases : db'.books.leases = db.books.leases.modify l.id p)
    (hhistory : db'.books.history =
      db.books.history ++ historyRows l (p.apply l) action user env.now) : Replayed db' :=
  h.change hactivity hl hleases hhistory (fun _ hrow => leaseId_of_mem_historyRows hrow)
    fun _ _ hreplays => replayHistory_historyRows hreplays

/-- A change no history is kept of: of what is not tracked, or of the status of a lease
that is marked. -/
theorem Replayed.skip {p : Patch Lease.id} (h : Replayed db)
    (hactivity : db.activity ⊆ db'.activity) (hl : ∃ x ∈ db.books.leases, x.id = l.id)
    (hleases : db'.books.leases = db.books.leases.modify l.id p)
    (hhistory : db'.books.history = db.books.history)
    (hsame : ∀ x ∈ db.books.leases, x.id = l.id → ∀ field,
      (field = .status → Unmarked db' l.id) →
        normalizeLeaseValue (p.apply x) field = normalizeLeaseValue x field) : Replayed db' := by
  obtain ⟨x, hx, hid⟩ := hl
  rw [← hid] at hleases
  have hnone : db'.books.history = db.books.history ++ [] := by rw [hhistory, List.append_nil]
  refine h.change hactivity hx hleases hnone (fun row hrow => by cases hrow)
    fun field hstatus hreplays => ?_
  rw [List.append_nil, hsame x hx hid field (hid ▸ hstatus), hreplays]

theorem normalizeLeaseValue_statusSet {now : Date} {status : LeaseStatus}
    {field : TrackedLeaseField} (hfield : field ≠ .status) :
    normalizeLeaseValue ((leaseStatusSet now status).apply l) field =
      normalizeLeaseValue l field := by
  cases field <;> first | rfl | exact absurd rfl hfield

theorem Replayed.mark {now : Date} {status : LeaseStatus} {action : LeaseActivityAction}
    (h : Replayed db) (hactivity : db.activity ⊆ db'.activity)
    (hl : ∃ x ∈ db.books.leases, x.id = l.id)
    (hleases : db'.books.leases = db.books.leases.modify l.id (leaseStatusSet now status))
    (hhistory : db'.books.history = db.books.history) (hrecorded : Recorded db' l.id action)
    (haction : action = .CONTRACT_ACTIVATED ∨ action = .CONTRACT_CANCELLED) : Replayed db' := by
  refine h.skip hactivity hl hleases hhistory fun x hx hid field hstatus => ?_
  refine normalizeLeaseValue_statusSet fun hfield => ?_
  exact hrecorded.not_unmarked haction (hstatus hfield)

theorem MovesOut.replayed {occupancyId : Id} {endAt : Date}
    (hout : MovesOut env user l occupancyId endAt db db') (h : Replayed db) : Replayed db' := by
  obtain ⟨settlement, hbooks⟩ := hout.books
  exact h.record hout.activity hout.mem (congrArg Books.leases hbooks)
    (congrArg Books.history hbooks)

theorem Cancels.replayed (hcancel : Cancels env l db db')
    (hl : ∃ x ∈ db.books.leases, x.id = l.id) (h : Replayed db) : Replayed db' :=
  h.mark hcancel.activity hl (congrArg Books.leases hcancel.books) (by rw [hcancel.books])
    hcancel.recorded (.inr rfl)

theorem Completes.replayed {r : MoveRequest} (hcomplete : Completes env l r db db')
    (hl : ∃ x ∈ db.books.leases, x.id = l.id) (h : Replayed db) : Replayed db' := by
  have hleases := congrArg Books.leases hcomplete.books
  have hhistory := congrArg Books.history hcomplete.books
  dsimp only at hleases
  by_cases hearly : r.requestedMoveAt < l.leaseEndDate
  · rw [if_pos hearly] at hleases
    exact h.mark hcomplete.activity hl hleases hhistory (hcomplete.recorded hearly) (.inr rfl)
  · rw [if_neg hearly] at hleases
    exact h.of_eq hcomplete.activity hleases hhistory

theorem Effect.replayed (he : Effect env db db' op) (hactivity : db.activity ⊆ db'.activity)
    (h : Replayed db) : Replayed db' := by
  cases he with
  | draft building unit resident l leases hlease hperiod hleases hbooks =>
    obtain rfl : db'.books.leases = leases := congrArg Books.leases hbooks
    exact h.create hactivity hleases (congrArg Books.history hbooks)
  | editContract l data hl hchecked hbooks =>
    exact h.record hactivity hl (congrArg Books.leases hbooks) (congrArg Books.history hbooks)
  | editLease l data columns hl hchecked hcolumns hbooks =>
    exact h.record hactivity hl (congrArg Books.leases hbooks) (congrArg Books.history hbooks)
  | replaceTerms hbooks =>
    exact h.of_eq hactivity (congrArg Books.leases hbooks) (congrArg Books.history hbooks)
  | activated l hl hactive hbooks =>
    exact h.of_eq hactivity (congrArg Books.leases hbooks) (congrArg Books.history hbooks)
  | activate l hl hended hactive hbooks hrecorded =>
    exact h.mark hactivity ⟨l, hl, rfl⟩ (congrArg Books.leases hbooks) (by rw [hbooks]) hrecorded
      (.inl rfl)
  | cancel l hl hended hvacant hcancel => exact hcancel.replayed ⟨l, hl, rfl⟩ h
  | moveOutAndCancel l occupancyId db₁ hout hcancel =>
    exact hcancel.replayed hout.exists_mem (hout.replayed h)
  | ask kind hop l r requests hl hactive hunlinked hnone hlease horg hpending hrequests hbooks =>
    refine h.of_eq hactivity ?_ ?_
    · rw [hbooks, Books.leases_withRequests]
    · rw [hbooks, Books.history_withRequests]
  | review kind hop r status reviewerId rejectionReason hr hpending hstatus hbooks =>
    refine h.of_eq hactivity ?_ ?_
    · rw [hbooks, Books.leases_withRequests]
    · rw [hbooks, Books.history_withRequests]
  | executeMoveIn l residentUserId r occupancies hl hactive hunlinked hr horg hlease happroved
      hoccupancies hbooks =>
    refine h.skip hactivity ⟨l, hl, rfl⟩ (congrArg Books.leases hbooks) (by rw [hbooks])
      fun x hx hid field _ => ?_
    obtain rfl := Table.eq_of_key_eq hx hl hid
    cases field with
    | status => simp [normalizeLeaseValue, leaseMovedIn, hactive]
    | _ => rfl
  | executeMoveOut l r occupancyId db₁ hfound hout hcomplete =>
    exact hcomplete.replayed hout.exists_mem (hout.replayed h)
  | moveIn residentUserId l leases occupancies parkingAllocations hlease hoccupancies hleases
      hallocations hbooks =>
    obtain rfl : db'.books.leases = leases := congrArg Books.leases hbooks
    exact h.create hactivity hleases (congrArg Books.history hbooks)
  | moveOut l occupancyId endAt hend hout => exact hout.replayed h

theorem next_replayed (c : Env × Operation) (db : Db) (h : Replayed db) : Replayed (next c db) := by
  obtain ⟨env, op⟩ := c
  rcases next_cases env op db with hnext | heffect
  · rwa [hnext]
  · exact heffect.replayed (next_activity env op db) h

end Step

section Runs

end Runs

end Towerdesk.Leases
