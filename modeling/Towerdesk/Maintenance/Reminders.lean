import Towerdesk.Lib.Cycles
import Towerdesk.Lib.Interleaving
import Towerdesk.Maintenance.Emissions

/-!
# Estimate reminders

Monitors scan for overdue estimates while the operations go on. A scan works through a list
that grows stale: each request of it is marked by a conditional update in one turn and
announced in a later one. Since only a new call for an estimate takes the mark away, a request
is marked once in a cycle at most, and each marking is announced at most once, but the
announcement may come after the next cycle has begun.
-/

namespace Towerdesk.Maintenance

open Interleaving (Coherent)

section Repo

def listPendingEstimateReminderRequests (db : Db) (now : Date) (limit : ℕ) :
    List MaintenanceRequest :=
  ((db.maintenanceRequests.rows.filter (estimateReminderPending now)).insertionSort
    fun a b => a.estimateDueAt.getD 0 ≤ b.estimateDueAt.getD 0).take limit

def pendingRows (db : Db) (requestId : Id) (now : Date) : List MaintenanceRequest :=
  db.maintenanceRequests.rows.filter fun r => r.id = requestId ∧ estimateReminderPending now r

def markReminded (db : Db) (requestId : Id) (now : Date) : Db :=
  { db with maintenanceRequests := db.maintenanceRequests.modify requestId (reminderSent now) }

/-- The store after the update, and its `count`. -/
def markEstimateReminderSentIfPending (db : Db) (requestId : Id) (now : Date) : Db × ℕ :=
  (markReminded db requestId now, (pendingRows db requestId now).length)

def emitEstimateReminder (env : Env) (request : MaintenanceRequest) : Event :=
  ⟨.ESTIMATE_REMINDER, toEventRequest env request, none, SYSTEM_ACTOR_USER_ID, none, none⟩

end Repo

/-- The log keeps each call for an estimate, each row as a monitor found it when it marked it,
and each announcement with the place of its marking. -/
inductive Entry (π : Type)
  | asked (requestId : Id)
  | marked (monitor : π) (request : MaintenanceRequest) (now : Date)
  | reminded (marking : ℕ) (event : Event)
deriving DecidableEq

namespace Entry

variable {π : Type}

def asks (requestId : Id) : Entry π → Bool
  | .asked id => id = requestId
  | _ => false

def marks (requestId : Id) : Entry π → Bool
  | .marked _ request _ => request.id = requestId
  | _ => false

def reminds (requestId : Id) : Entry π → Bool
  | .reminded _ event => event.request.id = requestId
  | _ => false

def announced : Entry π → Option ℕ
  | .reminded marking _ => some marking
  | _ => none

def reminder : Entry π → Option Event
  | .reminded _ event => some event
  | _ => none

end Entry

/-- The calls for an estimate are those that have returned. -/
def Operation.asks : Operation → Option Id
  | .requestEstimateFromProvider _ _ requestId _ => some requestId
  | _ => none

structure Shared (π : Type) where
  db : Db
  log : List (Entry π)

inductive Task
  | idle
  | planned (op : Operation) (w : Write)
  | scanning (env : Env) (staleRequests : List MaintenanceRequest)
  | announcing (env : Env) (request : MaintenanceRequest) (staleRequests : List MaintenanceRequest)
      (marking : ℕ)

inductive Turn
  | call (env : Env) (op : Operation)
  | scanAndEmitReminders (env : Env)
  | resume (env : Env)

section Turns

variable {π : Type}

/-- The read step of a request; one without a caller is refused. -/
def begin (env : Env) (op : Operation) (db : Db) : Task :=
  match op.caller, plan env db op with
  | some _, .ok w => .planned op w
  | _, _ => .idle

def finish (env : Env) (op : Operation) (w : Write) (s : Shared π) : Shared π :=
  match commit env w s.db with
  | .ok db => ⟨db, s.log ++ (op.asks.map .asked).toList⟩
  | .error _ => s

def mark (monitor : π) (env : Env) (request : MaintenanceRequest)
    (staleRequests : List MaintenanceRequest) (s : Shared π) : Task × Shared π :=
  let (db, count) := markEstimateReminderSentIfPending s.db request.id env.now
  if count = 0 then (.scanning env staleRequests, ⟨db, s.log⟩)
  else (.announcing env request staleRequests s.log.length,
    ⟨db, s.log ++ (pendingRows s.db request.id env.now).map fun r => .marked monitor r env.now⟩)

def announce (env : Env) (request : MaintenanceRequest) (marking : ℕ) (s : Shared π) : Shared π :=
  let event := emitEstimateReminder env request
  ⟨{ s.db with events := s.db.events ++ [event] }, s.log ++ [.reminded marking event]⟩

def turns : Interleaving.Machine π Turn Task (Shared π) where
  step p turn task s :=
    match task, turn with
    | .idle, .call env op => (begin env op s.db, s)
    | .idle, .scanAndEmitReminders env =>
      (.scanning env (listPendingEstimateReminderRequests s.db env.now 50), s)
    | .planned op w, .resume env => (.idle, finish env op w s)
    | .scanning _ [], .resume _ => (.idle, s)
    | .scanning env (request :: staleRequests), .resume _ => mark p env request staleRequests s
    | .announcing env request staleRequests marking, .resume _ =>
      (.scanning env staleRequests, announce env request marking s)
    | task, _ => (task, s)

end Turns

/-- An estimate asked for has had its reminder. -/
def MaintenanceRequest.Spent (r : MaintenanceRequest) : Prop :=
  r.estimateStatus = .REQUESTED → r.estimateReminderSentAt ≠ none

/-- A write that makes no reminder pending, unless it asks for the estimate of `asked`. -/
def Write.KeepsSpent (asked : Option Id) : Write → Prop
  | .create request _ _ => request.Spent
  | .update u => asked = some u.requestId ∨
      ∀ now r, r.Spent → ((touched u.data now).apply r).Spent
  | .remind _ _ _ => False
  | .comment _ | .attach _ | .markRead _ _ | .skip => True

section Spending

variable {env : Env} {db db' : Db} {op : Operation} {w : Write} {r : MaintenanceRequest}
  {u : RowUpdate} {id : Id} {now : Date}

theorem not_spent_of_pending (h : estimateReminderPending now r) : ¬ r.Spent := by
  obtain ⟨hrequested, -, hsent, -⟩ := of_decide_eq_true h
  exact fun hspent => hspent hrequested hsent

theorem spent_reminderSent (h : estimateReminderPending now r) :
    ((reminderSent now).apply r).Spent := by
  intro _ hsent
  simp [reminderSent, h] at hsent

theorem Change.keepsSpent (h : Change env r op u) (hid : op.requestId = some r.id) :
    (Write.update u).KeepsSpent op.asks := by
  cases h with
  | requestEstimateFromProvider => exact .inl hid
  | submitRequestEstimatePending | submitRequestEstimateSettled
  | submitProviderRequestEstimatePending | submitProviderRequestEstimateSettled =>
    exact .inr fun _ _ _ hrequested => by cases hrequested
  | _ => exact .inr fun _ _ hspent => hspent

theorem plan_keepsSpent (h : plan env db op = .ok w) (hcaller : op.caller ≠ none) :
    w.KeepsSpent op.asks := by
  cases plan_planned h with
  | create => exact fun hrequested => by cases hrequested
  | update _ hid hchange => exact hchange.keepsSpent hid
  | remind hop => exact absurd (by rw [hop]; rfl) hcaller
  | other hop hcreate hupdate hremind =>
    cases w with
    | create r as e => exact absurd rfl (hcreate r as e)
    | update u => exact absurd rfl (hupdate u)
    | remind i n e => exact absurd rfl (hremind i n e)
    | _ => trivial

theorem spent_commit {asked : Option Id} (h : commit env w db = .ok db') (hw : w.KeepsSpent asked)
    (hasked : asked ≠ some id) (hspent : ∀ r ∈ db.maintenanceRequests, r.id = id → r.Spent) :
    ∀ r ∈ db'.maintenanceRequests, r.id = id → r.Spent := by
  have hkept : db'.maintenanceRequests = db.maintenanceRequests →
      ∀ r ∈ db'.maintenanceRequests, r.id = id → r.Spent := fun heq => heq ▸ hspent
  cases w with
  | create request attachments event =>
    obtain ⟨t, ht, rfl⟩ := commit_create.mp h
    intro r hr hid
    rcases (Table.mem_insert ht).mp hr with hr | rfl
    · exact hspent r hr hid
    · exact hw
  | update u =>
    obtain ⟨request, -, -, rfl⟩ := commit_update.mp h
    intro r hr hid
    rcases Table.mem_modify.mp hr with ⟨r₀, hr₀, hid₀, rfl⟩ | ⟨hr, -⟩
    · have hid' : r₀.id = id := ((touched u.data env.now).key_apply r₀).symm.trans hid
      have hne : asked ≠ some u.requestId := by rwa [← hid₀, hid']
      exact hw.resolve_left hne env.now r₀ (hspent r₀ hr₀ hid')
    · exact hspent r hr hid
  | remind requestId now event => exact hw.elim
  | comment c => exact hkept (commit_requests_eq h (by simp) (by simp) (by simp)).1
  | attach attachments => exact hkept (commit_requests_eq h (by simp) (by simp) (by simp)).1
  | markRead s o => exact hkept (commit_requests_eq h (by simp) (by simp) (by simp)).1
  | skip => exact hkept (commit_requests_eq h (by simp) (by simp) (by simp)).1

theorem spent_markReminded {requestId : Id}
    (hspent : ∀ r ∈ db.maintenanceRequests, r.id = id → r.Spent) :
    ∀ r ∈ (markReminded db requestId now).maintenanceRequests, r.id = id → r.Spent := by
  intro r hr hid
  rcases Table.mem_modify.mp hr with ⟨r₀, hr₀, -, rfl⟩ | ⟨hr, -⟩
  · by_cases hpending : estimateReminderPending now r₀
    · exact spent_reminderSent hpending
    · have hkept : (reminderSent now).apply r₀ = r₀ := if_neg hpending
      rw [hkept] at hid ⊢
      exact hspent r₀ hr₀ hid
  · exact hspent r hr hid

theorem mem_pendingRows : r ∈ pendingRows db id now ↔
    r ∈ db.maintenanceRequests ∧ r.id = id ∧ estimateReminderPending now r := by
  simp [pendingRows, Table.mem_rows]

theorem pendingRows_eq_singleton (h : pendingRows db id now ≠ []) :
    ∃ r, pendingRows db id now = [r] ∧ r.id = id ∧ estimateReminderPending now r ∧
      ¬ r.Spent ∧ r ∈ db.maintenanceRequests ∧
      ∀ r' ∈ (markReminded db id now).maintenanceRequests, r'.id = id → r'.Spent := by
  have hlen : (pendingRows db id now).length ≤ 1 := by
    refine Table.length_filter_le_one.mpr fun a ha b hb hpa hpb => ?_
    exact Table.eq_of_key_eq ha hb
      ((of_decide_eq_true hpa).1.trans (of_decide_eq_true hpb).1.symm)
  obtain ⟨r, hrow⟩ := List.length_eq_one_iff.mp
    (le_antisymm hlen (List.length_pos_of_ne_nil h))
  obtain ⟨hmem, hid, hpending⟩ := mem_pendingRows.mp (hrow ▸ List.mem_singleton_self r)
  refine ⟨r, hrow, hid, hpending, not_spent_of_pending hpending, hmem, fun r' hr' hid' => ?_⟩
  rcases Table.mem_modify.mp hr' with ⟨r₀, hr₀, hid₀, rfl⟩ | ⟨-, hne⟩
  · rw [Table.eq_of_key_eq hr₀ hmem (hid₀.trans hid.symm)]
    exact spent_reminderSent hpending
  · exact absurd hid' hne

theorem plan_emits_named {userId : Id} (h : plan env db op = .ok w)
    (hcaller : op.caller = some userId) : w.Emits fun name _ => name ≠ .ESTIMATE_REMINDER := by
  have hemits := plan_emits op w h
  rw [hcaller] at hemits
  exact hemits.imp fun _ _ hcaused => hcaused.1

end Spending

section Invariant

variable {π : Type}

/-- There is a marking of this request at this place of the log. -/
def MarkedAt (log : List (Entry π)) (marking : ℕ) (requestId : Id) : Prop :=
  ∃ p r now, log[marking]? = some (.marked p r now) ∧ r.id = requestId

def reminders (events : List Event) : List Event := events.filter (·.name = .ESTIMATE_REMINDER)

structure Consistent (base : List Event) (s : Shared π) : Prop where
  single : ∀ id, Cycles.Single (Entry.asks id) (Entry.marks id) s.log
  spent : ∀ id, Cycles.sinceOpened (Entry.asks id) (Entry.marks id) s.log ≠ 0 →
    ∀ r ∈ s.db.maintenanceRequests, r.id = id → r.Spent
  pending : ∀ p r now, .marked p r now ∈ s.log → estimateReminderPending now r
  announces : ∀ i n e, s.log[i]? = some (.reminded n e) → n < i ∧ MarkedAt s.log n e.request.id
  once : (s.log.filterMap Entry.announced).Nodup
  events : reminders s.db.events = base ++ s.log.filterMap Entry.reminder

/-- What a process is about to do. -/
def About (p : π) (task : Task) (s : Shared π) : Prop :=
  match task with
  | .idle | .scanning _ _ => True
  | .planned op w =>
    w.KeepsSpent op.asks ∧ w.Emits fun name _ => name ≠ .ESTIMATE_REMINDER
  | .announcing _ request _ marking =>
    (∃ r now, s.log[marking]? = some (.marked p r now) ∧ r.id = request.id) ∧
      marking ∉ s.log.filterMap Entry.announced

variable {base : List Event} {s : Shared π} {e : Entry π} {db : Db} {id : Id} {n : ℕ}

theorem MarkedAt.concat (h : MarkedAt s.log n id) : MarkedAt (s.log ++ [e]) n id := by
  obtain ⟨p, r, now, hn, hid⟩ := h
  exact ⟨p, r, now, Cycles.getElem?_concat_eq_some.mpr (.inl hn), hid⟩

theorem MarkedAt.lt_length (h : MarkedAt s.log n id) : n < s.log.length := by
  obtain ⟨p, r, now, hn, -⟩ := h
  exact (List.getElem?_eq_some_iff.mp hn).1

theorem filterMap_concat {β : Type} {f : Entry π → Option β} :
    (s.log ++ [e]).filterMap f = s.log.filterMap f ++ (f e).toList := by
  cases h : f e <;> simp [h]

theorem Consistent.push (h : Consistent base s)
    (hfirst : ∀ id, e.marks id = true →
      Cycles.sinceOpened (Entry.asks id) (Entry.marks id) s.log = 0)
    (hspent : ∀ id, Cycles.sinceOpened (Entry.asks id) (Entry.marks id) (s.log ++ [e]) ≠ 0 →
      ∀ r ∈ db.maintenanceRequests, r.id = id → r.Spent)
    (hpending : ∀ p r now, e = .marked p r now → estimateReminderPending now r)
    (hannounces : ∀ n event, e = .reminded n event →
      MarkedAt s.log n event.request.id ∧ n ∉ s.log.filterMap Entry.announced)
    (hevents : reminders db.events = reminders s.db.events ++ e.reminder.toList) :
    Consistent base ⟨db, s.log ++ [e]⟩ where
  single id := (h.single id).concat fun _ => hfirst id
  spent := hspent
  pending p r now hmem := by
    rcases List.mem_append.mp hmem with hmem | hmem
    · exact h.pending p r now hmem
    · exact hpending p r now (List.mem_singleton.mp hmem).symm
  announces i n event hi := by
    rcases Cycles.getElem?_concat_eq_some.mp hi with hi | ⟨rfl, rfl⟩
    · exact ⟨(h.announces i n event hi).1, (h.announces i n event hi).2.concat⟩
    · have hmarked := (hannounces n event rfl).1
      exact ⟨hmarked.lt_length, hmarked.concat⟩
  once := by
    rw [filterMap_concat]
    cases e with
    | reminded n event =>
      exact List.concat_eq_append ▸ h.once.concat (hannounces n event rfl).2
    | _ => simpa [Entry.announced] using h.once
  events := by
    rw [hevents, filterMap_concat, h.events, List.append_assoc]

theorem Consistent.store (h : Consistent base s)
    (hspent : ∀ id, (∀ r ∈ s.db.maintenanceRequests, r.id = id → r.Spent) →
      ∀ r ∈ db.maintenanceRequests, r.id = id → r.Spent)
    (hevents : reminders db.events = reminders s.db.events) : Consistent base ⟨db, s.log⟩ where
  single := h.single
  spent id hsince := hspent id (h.spent id hsince)
  pending := h.pending
  announces := h.announces
  once := h.once
  events := hevents.trans h.events

theorem mem_announced : n ∈ s.log.filterMap Entry.announced ↔
    ∃ event, .reminded n event ∈ s.log := by
  rw [List.mem_filterMap]
  constructor
  · rintro ⟨e, he, hn⟩
    cases e with
    | reminded marking event => exact ⟨event, Option.some.inj hn ▸ he⟩
    | _ => cases hn
  · rintro ⟨event, he⟩
    exact ⟨_, he, rfl⟩

theorem Consistent.lt_of_announced (h : Consistent base s)
    (hn : n ∈ s.log.filterMap Entry.announced) : n < s.log.length := by
  obtain ⟨event, he⟩ := mem_announced.mp hn
  obtain ⟨i, hi⟩ := List.mem_iff_getElem?.mp he
  exact (h.announces i n event hi).2.lt_length

theorem reminders_append {events new : List Event} (h : ∀ e ∈ new, e.name ≠ .ESTIMATE_REMINDER) :
    reminders (events ++ new) = reminders events := by
  have hnew : new.filter (·.name = .ESTIMATE_REMINDER) = [] :=
    List.filter_eq_nil_iff.mpr fun e he => by simpa using h e he
  rw [reminders, List.filter_append, hnew, List.append_nil, reminders]

theorem Consistent.finish (h : Consistent base s) {env : Env} {op : Operation} {w : Write}
    (hw : w.KeepsSpent op.asks) (hemits : w.Emits fun name _ => name ≠ .ESTIMATE_REMINDER) :
    Consistent base (finish env op w s) := by
  unfold Maintenance.finish
  cases hcommit : commit env w s.db with
  | error e => exact h
  | ok db =>
    obtain ⟨es, hes, hnames⟩ := commit_events hcommit hemits
    have hevents : reminders db.events = reminders s.db.events := by
      rw [hes, reminders_append hnames]
    cases hasks : op.asks with
    | none =>
      have hstore := h.store
        (fun id hspent => spent_commit hcommit hw (by simp [hasks]) hspent) hevents
      simpa using hstore
    | some requestId =>
      refine h.push (fun id hmarks => by cases hmarks) (fun id hsince => ?_)
        (fun p r now hmarked => by cases hmarked) (fun n event hreminded => by cases hreminded)
        (by simpa [Entry.reminder] using hevents)
      have hne : requestId ≠ id := by
        rintro rfl
        simp [Cycles.sinceOpened_concat, Entry.asks] at hsince
      rw [Cycles.sinceOpened_concat_of_not (by simp [Entry.asks, hne]) rfl] at hsince
      exact spent_commit hcommit hw (by simp [hasks, hne]) (h.spent id hsince)

theorem mark_cases (p : π) (env : Env) (request : MaintenanceRequest)
    (staleRequests : List MaintenanceRequest) (s : Shared π) :
    (pendingRows s.db request.id env.now = [] ∧ mark p env request staleRequests s =
      (.scanning env staleRequests, ⟨markReminded s.db request.id env.now, s.log⟩)) ∨
    (pendingRows s.db request.id env.now ≠ [] ∧ mark p env request staleRequests s =
      (.announcing env request staleRequests s.log.length,
        ⟨markReminded s.db request.id env.now, s.log ++
          (pendingRows s.db request.id env.now).map fun r => .marked p r env.now⟩)) := by
  by_cases hnone : pendingRows s.db request.id env.now = []
  · exact .inl ⟨hnone, if_pos (List.length_eq_zero_iff.mpr hnone)⟩
  · exact .inr ⟨hnone, if_neg fun hlen => hnone (List.length_eq_zero_iff.mp hlen)⟩

theorem Consistent.mark (h : Consistent base s) {p : π} {env : Env} {request : MaintenanceRequest}
    {staleRequests : List MaintenanceRequest} :
    Consistent base (mark p env request staleRequests s).2 ∧
      About p (mark p env request staleRequests s).1 (mark p env request staleRequests s).2 := by
  rcases mark_cases p env request staleRequests s with ⟨-, hmark⟩ | ⟨hsome, hmark⟩
  · rw [hmark]
    exact ⟨h.store (fun id => spent_markReminded) rfl, trivial⟩
  · rw [hmark]
    obtain ⟨r, hrow, hid, hpending, hunspent, hmem, hspent⟩ := pendingRows_eq_singleton hsome
    rw [hrow, List.map_singleton]
    refine ⟨h.push (fun id hmarks => ?_) (fun id hsince => ?_) ?_
      (fun n event hreminded => by cases hreminded) ?_, ?_, ?_⟩
    · have hrid : r.id = id := of_decide_eq_true hmarks
      by_contra hsince
      exact hunspent (h.spent id hsince r hmem hrid)
    · by_cases hrid : r.id = id
      · rwa [← hrid, hid]
      · rw [Cycles.sinceOpened_concat_of_not rfl (by simp [Entry.marks, hrid])] at hsince
        exact spent_markReminded (h.spent id hsince)
    · rintro p' r' now' ⟨⟩
      exact hpending
    · simp [markReminded, Entry.reminder]
    · exact ⟨r, env.now, by simp, hid⟩
    · rw [filterMap_concat]
      intro hannounced
      have hold := h.lt_of_announced (by simpa [Entry.announced] using hannounced)
      exact absurd hold (Nat.lt_irrefl _)

theorem Consistent.announce (h : Consistent base s) {env : Env} {request : MaintenanceRequest}
    (hmarked : MarkedAt s.log n request.id) (hfresh : n ∉ s.log.filterMap Entry.announced) :
    Consistent base (announce env request n s) := by
  refine h.push (fun id hmarks => by cases hmarks) (fun id hsince => ?_)
    (fun p r now hmarked => by cases hmarked) (fun m event hreminded => ?_) ?_
  · rw [Cycles.sinceOpened_concat_of_not rfl rfl] at hsince
    exact h.spent id hsince
  · cases hreminded
    exact ⟨hmarked, hfresh⟩
  · rw [reminders, List.filter_append]
    rfl

/-- What a process adds to the log announces its own markings only. -/
def Grows (p : π) (s s' : Shared π) : Prop :=
  ∃ es, s'.log = s.log ++ es ∧
    ∀ n event, .reminded n event ∈ es → ∃ r now, s.log[n]? = some (.marked p r now)

theorem grows_of_eq {p : π} {s s' : Shared π} (h : s'.log = s.log) : Grows p s s' :=
  ⟨[], by simp [h], by simp⟩

theorem turns_grows {p : π} {task : Task} (h : About p task s) (turn : Turn) :
    Grows p s (turns.step p turn task s).2 := by
  simp only [turns]
  split
  · exact grows_of_eq rfl
  · exact grows_of_eq rfl
  · next op w env =>
    unfold finish
    split
    · refine ⟨_, rfl, fun n event he => ?_⟩
      obtain ⟨id, -, hid⟩ := Option.map_eq_some_iff.mp (Option.mem_toList.mp he)
      cases hid
    · exact grows_of_eq rfl
  · exact grows_of_eq rfl
  · next env request staleRequests _ =>
    rcases mark_cases p env request staleRequests s with ⟨-, hmark⟩ | ⟨-, hmark⟩
    · rw [hmark]
      exact grows_of_eq rfl
    · rw [hmark]
      refine ⟨_, rfl, fun n event he => ?_⟩
      obtain ⟨r, -, hr⟩ := List.mem_map.mp he
      cases hr
  · next env request staleRequests marking _ =>
    refine ⟨_, rfl, fun n event he => ?_⟩
    obtain ⟨r, now, hr, -⟩ := h.1
    cases List.mem_singleton.mp he
    exact ⟨r, now, hr⟩
  · exact grows_of_eq rfl

theorem About.other {p q : π} {task : Task} {s' : Shared π} (h : About q task s)
    (hgrows : Grows p s s') (hne : q ≠ p) : About q task s' := by
  obtain ⟨es, hlog, hown⟩ := hgrows
  cases task with
  | announcing env request staleRequests marking =>
    obtain ⟨⟨r, now, hr, hid⟩, hfresh⟩ := h
    refine ⟨⟨r, now, ?_, hid⟩, fun hannounced => ?_⟩
    · rw [hlog, List.getElem?_append_left (List.getElem?_eq_some_iff.mp hr).1]
      exact hr
    · obtain ⟨event, he⟩ := mem_announced.mp hannounced
      rw [hlog] at he
      rcases List.mem_append.mp he with he | he
      · exact hfresh (mem_announced.mpr ⟨event, he⟩)
      · obtain ⟨r', now', hr'⟩ := hown marking event he
        rw [hr] at hr'
        cases hr'
        exact hne rfl
  | _ => exact h

theorem turns_self {p : π} {task : Task} (hs : Consistent base s) (h : About p task s)
    (turn : Turn) : Consistent base (turns.step p turn task s).2 ∧
      About p (turns.step p turn task s).1 (turns.step p turn task s).2 := by
  simp only [turns]
  split
  · next env op =>
    refine ⟨hs, ?_⟩
    unfold begin
    split
    · next w userId hcaller hplan =>
      exact ⟨plan_keepsSpent hplan (by simp [hcaller]), plan_emits_named hplan hcaller⟩
    · trivial
  · exact ⟨hs, trivial⟩
  · exact ⟨hs.finish h.1 h.2, trivial⟩
  · exact ⟨hs, trivial⟩
  · exact hs.mark
  · next env request staleRequests marking _ =>
    obtain ⟨⟨r, now, hr, hid⟩, hfresh⟩ := h
    exact ⟨hs.announce ⟨p, r, now, hr, hid⟩ hfresh, trivial⟩
  · exact ⟨hs, h⟩

variable [DecidableEq π]

def sharedAfter (db : Db) (ms : List (π × Turn)) : Shared π :=
  (Run.exec (Interleaving.next turns) (.start ⟨db, []⟩ .idle) ms).shared

theorem consistent_sharedAfter (db : Db) (ms : List (π × Turn)) :
    Consistent (reminders db.events) (sharedAfter db ms) := by
  have hstart : Coherent (Consistent (reminders db.events)) About
      (.start (⟨db, []⟩ : Shared π) .idle) := {
    shared := {
      single := fun _ => Cycles.single_nil
      spent := fun _ hsince => absurd rfl hsince
      pending := fun _ _ _ hmem => absurd hmem List.not_mem_nil
      announces := fun _ _ _ hi => by cases hi
      once := List.nodup_nil
      events := (List.append_nil _).symm }
    locals := fun _ => trivial }
  exact (Interleaving.coherent_exec (I := Consistent (reminders db.events)) (J := About)
    (g := fun _ _ _ _ => True) (fun p turn task s hs h _ => turns_self hs h turn)
    (fun p turn task s q task' hne _ h _ hq => hq.other (turns_grows h turn) hne)
    hstart (Run.along_of_split fun _ _ _ _ => trivial)).shared

end Invariant

section Cycle

variable {π : Type}

/-- An announcement for the request, of a marking between two places of the log. -/
def Entry.announcesWithin (requestId : Id) (lo hi : ℕ) : Entry π → Bool
  | .reminded marking event => event.request.id = requestId ∧ lo ≤ marking ∧ marking < hi
  | _ => false

/-- The reminders that have been emitted, each counted where its marking stands. -/
structure RemindedOncePerCycle (db : Db) (s : Shared π) : Prop where
  events : reminders s.db.events = reminders db.events ++ s.log.filterMap Entry.reminder
  announces : ∀ i n event, s.log[i]? = some (.reminded n event) →
    n < i ∧ MarkedAt s.log n event.request.id
  pending : ∀ p r now, .marked p r now ∈ s.log → r.estimateStatus = .REQUESTED ∧
    (∃ due, r.estimateDueAt = some due ∧ due ≤ now) ∧ r.status ≠ .COMPLETED ∧ r.status ≠ .CANCELED
  once : ∀ id pre seg post, s.log = pre ++ seg ++ post → (∀ e ∈ seg, e.asks id = false) →
    s.log.countP (Entry.announcesWithin id pre.length (pre.length + seg.length)) ≤ 1

theorem Consistent.once_within {base : List Event} {s : Shared π} (h : Consistent base s) {id : Id}
    {pre seg post : List (Entry π)} (hlog : s.log = pre ++ seg ++ post)
    (hclosed : ∀ e ∈ seg, e.asks id = false) :
    s.log.countP (Entry.announcesWithin id pre.length (pre.length + seg.length)) ≤ 1 := by
  have hsingle : seg.countP (Entry.marks id) ≤ 1 := h.single id seg ⟨pre, post, hlog.symm⟩ hclosed
  have hseg : ∀ n, pre.length ≤ n → n < pre.length + seg.length →
      s.log[n]? = seg[n - pre.length]? := by
    intro n hlo hhi
    rw [hlog, List.getElem?_append_left (by simpa using hhi), List.getElem?_append_right hlo]
  refine Cycles.countP_le_one_of_labels (Q := fun n =>
    (pre.length ≤ n ∧ n < pre.length + seg.length) ∧ MarkedAt s.log n id) h.once ?_ ?_
  · intro e he hwithin
    cases e with
    | reminded n event =>
      obtain ⟨rfl, hrange⟩ := of_decide_eq_true hwithin
      obtain ⟨i, hi⟩ := List.mem_iff_getElem?.mp he
      exact ⟨n, rfl, hrange, (h.announces i n event hi).2⟩
    | _ => cases hwithin
  · rintro n m ⟨hn, p, r, now, hr, hid⟩ ⟨hm, p', r', now', hr', hid'⟩
    rw [hseg n hn.1 hn.2] at hr
    rw [hseg m hm.1 hm.2] at hr'
    have heq := Cycles.index_unique hsingle hr hr' (decide_eq_true hid) (decide_eq_true hid')
    omega

theorem reminded_once_per_cycle [DecidableEq π] (db : Db) (ms : List (π × Turn)) :
    RemindedOncePerCycle db (sharedAfter db ms) := by
  have h := consistent_sharedAfter db ms
  refine ⟨h.events, h.announces, fun p r now hmarked => ?_, fun id pre seg post => h.once_within⟩
  obtain ⟨hrequested, hdue, -, hopen⟩ := of_decide_eq_true (h.pending p r now hmarked)
  rw [Option.any_eq_true] at hdue
  obtain ⟨due, hsome, hle⟩ := hdue
  exact ⟨hrequested, ⟨due, hsome, of_decide_eq_true hle⟩, not_or.mp hopen⟩

end Cycle

theorem commit_remind (env : Env) (request : MaintenanceRequest) (db : Db) :
    commit env (.remind request.id env.now (emitEstimateReminder env request)) db =
      .ok (if pendingRows db request.id env.now = [] then db
        else { markReminded db request.id env.now with
          events := db.events ++ [emitEstimateReminder env request] }) := by
  have hpending : (db.maintenanceRequests.findUnique request.id).any
      (estimateReminderPending env.now) = true ↔ ¬ pendingRows db request.id env.now = [] := by
    rw [Table.any_findUnique, List.eq_nil_iff_forall_not_mem]
    push Not
    exact exists_congr fun r => mem_pendingRows.symm
  simp only [commit, hpending]
  split_ifs <;> rfl

section Overlap

inductive Server
  | requests | monitor | otherMonitor
deriving DecidableEq

def callOf (server : Server) (l : Env × Operation) : List (Server × Turn) :=
  [(server, .call l.1 l.2), (server, .resume l.1)]

def resumeAt (server : Server) (now : Date) : Server × Turn :=
  (server, .resume (sceneEnv "org" "building" now))

def scanAt (server : Server) (now : Date) : Server × Turn :=
  (server, .scanAndEmitReminders (sceneEnv "org" "building" now))

/-- The estimate is asked for anew between a marking and its announcement. -/
def lateReminder : List (Server × Turn) :=
  callOf .requests (residentCreates 0 "Tap") ++ callOf .requests (managerRequestsEstimate 1) ++
    [scanAt .monitor 300000000, resumeAt .monitor 300000000] ++
    callOf .requests (managerRequestsEstimate 300000001) ++
    [resumeAt .monitor 300000001, scanAt .otherMonitor 600000001,
      resumeAt .otherMonitor 600000001, resumeAt .otherMonitor 600000001] ++
    callOf .requests (managerRequestsEstimate 600000002)

def lateLog : List (Entry Server) := (sharedAfter .empty lateReminder).log

/-- Between the last two calls the request is announced twice. -/
theorem late_reminder_in_next_cycle :
    ¬ ∀ (db : Db) (ms : List (Server × Turn)) (id : Id) (pre seg post : List (Entry Server)),
      (sharedAfter db ms).log = pre ++ .asked id :: (seg ++ .asked id :: post) →
        (∀ e ∈ seg, e.asks id = false) → seg.countP (Entry.reminds id) ≤ 1 := by
  intro h
  have hrun : lateLog = lateLog.take 2 ++
        .asked "request" :: ((lateLog.drop 3).take 3 ++ .asked "request" :: []) ∧
      (∀ e ∈ (lateLog.drop 3).take 3, e.asks "request" = false) ∧
      ((lateLog.drop 3).take 3).countP (Entry.reminds "request") = 2 := by
    decide +kernel
  obtain ⟨hlog, hclosed, htwo⟩ := hrun
  have hone := h _ _ _ _ _ _ hlog hclosed
  omega

end Overlap

end Towerdesk.Maintenance
