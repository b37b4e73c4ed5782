import Towerdesk.Visitors.Service

/-!
# Arrivals and cancellations

Calls on one visitor take turns. An account is kept for each call of the residents to be told
of an arrival that the call brought about, and of those it has told. The two agree whenever
the call is over, and a cancellation finds its visitor expected, as long as each call writes
on what it has read.
-/

namespace Towerdesk.Visitors

open Script (advance atomic query until_done_bind until_query_bind)
open Interleaving (Config AtStep Coherent coherent_next)
open Transaction (final)
open Delivery (NotificationInput)

inductive VisitorCall
  | update (env : Env) (user : Option AuthenticatedUser) (buildingId : Id) (dto : UpdateVisitorDto)
  | updateResident (env : Env) (user : Option AuthenticatedUser) (dto : UpdateResidentVisitorDto)
  | cancelResident (env : Env) (user : Option AuthenticatedUser)

def VisitorCall.cancels : VisitorCall → Bool
  | .cancelResident _ _ => true
  | _ => false

section Calls

variable (visitorId : Id)

def callScript : VisitorCall → Call VisitorWithRelations
  | .update env user buildingId dto => update env user visitorId buildingId dto
  | .updateResident env user dto => updateResident env user visitorId dto
  | .cancelResident env user => cancelResident env user visitorId

def statusOf (db : Db) : Option VisitorStatus :=
  (db.visitors.findUnique visitorId).map (·.status)

def activeResidents (db : Db) (unitId : Id) : List Id :=
  ((db.activeOccupancies unitId).map (·.residentUserId)).dedup

/-- The active residents of the unit that the visitor is expected at. -/
def residentsOf (db : Db) : List Id :=
  ((db.visitors.findUnique visitorId).map fun v => activeResidents db v.unitId).getD []

def arrives (before after : Db) : Bool :=
  statusOf visitorId before ≠ some .ARRIVED ∧ statusOf visitorId after = some .ARRIVED

def newRecipients (before after : Db) : List Id :=
  (after.notifications.drop before.notifications.length).map (·.recipientUserId)

/-- For each call, whom the arrivals it brought about concern and whom it has told. -/
structure Account (π : Type) where
  owed : π → List Id
  notified : π → List Id

variable {π : Type} [DecidableEq π]

def record (p : π) (before after : Db) (account : Account π) : Account π where
  owed := Function.update account.owed p
    (account.owed p ++ if arrives visitorId before after then residentsOf visitorId after else [])
  notified := Function.update account.notified p
    (account.notified p ++ newRecipients before after)

abbrev State (π : Type) := Config π (Call VisitorWithRelations) (Db × Account π)

def turns : Interleaving.Machine π Unit (Call VisitorWithRelations) (Db × Account π) :=
  Script.watched fun p => record visitorId p

omit [DecidableEq π] in
def atStart (calls : π → VisitorCall) (db : Db) : State π :=
  ⟨(db, ⟨fun _ => [], fun _ => []⟩), fun p => callScript visitorId (calls p)⟩

def cancellation : VisitorUpdateInput := { status := some .CANCELLED }

/-- A cancellation writes on an expected visitor, and an update that leaves the visitor arrived
finds it arrived exactly if it has read so, unless there is nobody to tell. -/
def FindsAsRead (calls : π → VisitorCall) :
    π → Unit → Call VisitorWithRelations → Db × Account π → Prop := fun p _ c t =>
  ∀ v, t.1.visitors.findUnique visitorId = some v →
    match calls p with
    | .cancelResident env _ => c = repoUpdate env visitorId cancellation → v.status = .EXPECTED
    | .update env user _ _ => ∀ data previousStatus,
      c = writeAndNotify env user visitorId data previousStatus →
        ((data.patch env).apply v).status = .ARRIVED →
          activeResidents t.1 ((data.patch env).apply v).unitId ≠ [] →
            (previousStatus = .ARRIVED ↔ v.status = .ARRIVED)
    | .updateResident _ _ _ => True

/-- What a call has left is its write. -/
def Writes (call : VisitorCall) (c : Call VisitorWithRelations) : Prop :=
  match call with
  | .update env user _ _ => ∃ data previousStatus,
      c = writeAndNotify env user visitorId data previousStatus
  | .updateResident env _ _ => ∃ data : VisitorUpdateInput,
      data.status = none ∧ c = repoUpdate env visitorId data
  | .cancelResident env _ => c = repoUpdate env visitorId cancellation

end Calls

section Scripts

variable {visitorId : Id} {env : Env} {user : Option AuthenticatedUser}

theorem getResident_bind_until {D : Call VisitorWithRelations → Prop}
    {f : VisitorWithRelations → Call VisitorWithRelations}
    (h : ∀ visitor, visitor.visitor.id = visitorId → (f visitor).Until (· = id) D) :
    (getResident user visitorId >>= f).Until (· = id) D := by
  rw [getResident, getResidentActiveOccupancy]
  simp only [Script.bind_bind]
  refine until_done_bind fun orgId _ => until_done_bind fun userId _ => ?_
  refine until_query_bind rfl fun db occupancy _ => until_query_bind rfl fun db visitor hfound => ?_
  obtain ⟨v, hv, rfl⟩ := Option.map_eq_some_iff.mp (Outcome.orThrow_eq_ok.mp hfound)
  exact h _ (of_decide_eq_true (Table.findFirst_some hv).2).1

theorem callScript_until (call : VisitorCall) :
    (callScript visitorId call).Until (· = id) (Writes visitorId call) := by
  cases call with
  | update env user buildingId dto =>
    refine until_done_bind fun orgId _ => until_query_bind rfl fun db building _ => ?_
    refine until_query_bind rfl fun db existing _ => ?_
    rw [assertUnit]
    split_ifs with hunit
    · exact until_done_bind fun _ _ => until_done_bind fun data _ => .inl ⟨data, _, rfl⟩
    · exact until_query_bind rfl fun db _ _ => until_done_bind fun data _ => .inl ⟨data, _, rfl⟩
  | updateResident env user dto =>
    refine getResident_bind_until fun visitor hid => until_done_bind fun data hdata => ?_
    rw [hid]
    refine .inl ⟨data, ?_, rfl⟩
    simp only [mapResidentVisitorUpdate, Outcome.bind_eq_ok, Outcome.pure_eq_ok] at hdata
    obtain ⟨_, -, _, -, _, -, _, -, rfl⟩ := hdata
    rfl
  | cancelResident env user =>
    refine getResident_bind_until fun visitor hid => until_done_bind fun _ _ => ?_
    rw [hid]
    exact .inl rfl

theorem updateStatement_cases (data : VisitorUpdateInput) (db : Db) :
    (∃ e, updateStatement env visitorId data db = .error e db) ∨
      ∃ v, db.visitors.findUnique visitorId = some v ∧
        updateStatement env visitorId data db = .ok (db.visitorInclude ((data.patch env).apply v))
          { db with visitors := db.visitors.modify visitorId (data.patch env) } := by
  unfold updateStatement
  cases hfound : db.visitors.findUnique visitorId with
  | none => exact .inl ⟨_, rfl⟩
  | some v =>
    dsimp only
    split_ifs
    · exact .inr ⟨v, rfl, rfl⟩
    · exact .inl ⟨_, rfl⟩

theorem activeOccupancies_le_one (db : Db) (unitId : Id) :
    (db.activeOccupancies unitId).length ≤ 1 := by
  refine Table.length_filter_le_one.mpr fun a ha b hb hpa hpb => ?_
  obtain ⟨hunit, hactive⟩ := of_decide_eq_true hpa
  obtain ⟨hunit', hactive'⟩ := of_decide_eq_true hpb
  refine (Leases.occupancyCheck_eq_none.mp db.occupancies.valid).1.eq ha hb
    (i := unitId) ?_ ?_
  · rw [Leases.activeUnit, if_pos hactive, hunit]
  · rw [Leases.activeUnit, if_pos hactive', hunit']

theorem activeResidents_le_one (db : Db) (unitId : Id) :
    (activeResidents db unitId).length ≤ 1 := by
  refine (List.dedup_sublist _).length_le.trans ?_
  rw [List.length_map]
  exact activeOccupancies_le_one db unitId

theorem recipientsOf_visitorInclude (db : Db) (v : Visitor) :
    recipientsOf (db.visitorInclude v) = activeResidents db v.unitId := by
  have hle := activeOccupancies_le_one db v.unitId
  have hids : ∀ o ∈ db.activeOccupancies v.unitId, o.residentUserId ≠ "" :=
    fun o ho => db.residentIds o (List.mem_filter.mp ho).1
  rw [recipientsOf, activeResidents, Db.visitorInclude]
  match hactive : db.activeOccupancies v.unitId with
  | [] => simp
  | [o] =>
    have hid : o.residentUserId ≠ "" := hids o (by simp [hactive])
    simp [hid, List.eraseDups_cons]
  | o :: o' :: rest =>
    rw [hactive] at hle
    simp at hle

end Scripts

section Announcing

variable {α β : Type}

/-- Whatever the others do, the script leaves the visitors alone and tells these residents. -/
def Announces : Call α → List Id → Prop
  | .done _, l => l = []
  | .step effect next, l => ∃ l₁ l₂, l = l₁ ++ l₂ ∧ ∀ db,
      (effect db).visitors = db.visitors ∧ newRecipients db (effect db) = l₁ ∧
        Announces (next db) l₂

theorem announces_create_bind {n : NotificationInput} {f : Unit → Call α} {l : List Id}
    (h : Announces (f ()) l) :
    Announces (createNotification n >>= f) (n.recipientUserId :: l) := by
  refine ⟨[n.recipientUserId], l, rfl, fun db => ⟨rfl, ?_, h⟩⟩
  change (List.drop db.notifications.length (db.notifications ++ [n])).map _ = _
  rw [List.drop_left]
  rfl

theorem announces_collect_bind {ns : List NotificationInput} {f : List Unit → Call α} {l : List Id}
    (h : ∀ a, Announces (f a) l) :
    Announces (Script.collect createNotification ns >>= f) (ns.map (·.recipientUserId) ++ l) := by
  induction ns generalizing f with
  | nil => exact h []
  | cons n ns ih =>
    rw [Script.collect, Script.bind_bind]
    refine announces_create_bind ?_
    rw [Script.bind_bind]
    exact ih fun a => h _

theorem announces_notify {user : Option AuthenticatedUser} {previousStatus : VisitorStatus}
    {db : Db} {v : Visitor} (hprevious : previousStatus ≠ .ARRIVED) (harrived : v.status = .ARRIVED)
    (a : α) :
    Announces (notifyResidentsOnArrival user previousStatus (db.visitorInclude v) >>= fun _ =>
      pure a) (activeResidents db v.unitId) := by
  have hstay : ¬ (previousStatus = .ARRIVED ∨ (db.visitorInclude v).visitor.status ≠ .ARRIVED) := by
    rw [not_or, not_not]
    exact ⟨hprevious, harrived⟩
  rw [notifyResidentsOnArrival, if_neg hstay, recipientsOf_visitorInclude]
  by_cases hnone : activeResidents db v.unitId = []
  · rw [if_pos hnone, hnone]
    rfl
  · have hids : ∀ id ∈ activeResidents db v.unitId, id ≠ "" := by
      intro id hid
      obtain ⟨o, ho, rfl⟩ := List.mem_map.mp (List.mem_dedup.mp hid)
      exact db.residentIds o (List.mem_filter.mp ho).1
    have hunique : (activeResidents db v.unitId).eraseDups.filter (· ≠ "") =
        activeResidents db v.unitId := by
      match hresidents : activeResidents db v.unitId, activeResidents_le_one db v.unitId with
      | [], _ => rfl
      | [id], _ =>
        have hid : id ≠ "" := hids id (by simp [hresidents])
        simp [hid, List.eraseDups_cons]
    have hrecipients : ((activeResidents db v.unitId).map
        (arrivalNotification user (db.visitorInclude v))).map (·.recipientUserId) =
          activeResidents db v.unitId := by
      rw [List.map_map]
      exact List.map_id _
    have hcreated := @announces_collect_bind α
      ((activeResidents db v.unitId).map (arrivalNotification user (db.visitorInclude v)))
      (fun _ => (pure () : Call Unit) >>= fun _ => pure a) [] fun _ => rfl
    rw [hrecipients, List.append_nil] at hcreated
    rw [if_neg hnone, createForUsers]
    simp only [hunique, if_neg hnone, Script.bind_bind]
    exact hcreated

theorem announces_nothing {user : Option AuthenticatedUser} {previousStatus : VisitorStatus}
    {visitor : VisitorWithRelations}
    (h : previousStatus = .ARRIVED ∨ visitor.visitor.status ≠ .ARRIVED) (a : α) :
    Announces (notifyResidentsOnArrival user previousStatus visitor >>= fun _ => pure a) [] := by
  rw [notifyResidentsOnArrival, if_pos h]
  rfl

end Announcing

section Records

variable {π : Type} [DecidableEq π] {visitorId : Id} {p q : π} {before after : Db}
  {account : Account π}

theorem arrives_of_same (h : after.visitors = before.visitors) :
    arrives visitorId before after = false := by
  simp only [arrives, statusOf, h, decide_eq_false_iff_not]
  exact fun h => h.1 h.2

theorem newRecipients_of_same (h : after.notifications = before.notifications) :
    newRecipients before after = [] := by
  rw [newRecipients, h, List.drop_length]
  rfl

theorem record_owed : (record visitorId p before after account).owed p = account.owed p ++
    if arrives visitorId before after then residentsOf visitorId after else [] :=
  Function.update_self ..

theorem record_notified : (record visitorId p before after account).notified p =
    account.notified p ++ newRecipients before after :=
  Function.update_self ..

theorem record_other (h : q ≠ p) :
    (record visitorId p before after account).owed q = account.owed q ∧
      (record visitorId p before after account).notified q = account.notified q :=
  ⟨Function.update_of_ne h .., Function.update_of_ne h ..⟩

theorem record_quiet (hvisitors : after.visitors = before.visitors) :
    (record visitorId p before after account).owed p = account.owed p := by
  rw [record_owed, arrives_of_same hvisitors]
  exact List.append_nil _

end Records

section Turns

variable {π : Type} [DecidableEq π] {visitorId : Id} {calls : π → VisitorCall} {p : π}
  {c : Call VisitorWithRelations} {t : Db × Account π} {env : Env}

/-- A call is about to write, with nothing on its account; or it has yet to tell those whom its
account lacks. -/
def Sound (visitorId : Id) (calls : π → VisitorCall) (p : π) (c : Call VisitorWithRelations)
    (t : Db × Account π) : Prop :=
  (t.2.owed p = [] ∧ t.2.notified p = [] ∧ c.Until (· = id) (Writes visitorId (calls p))) ∨
    ∃ l, t.2.owed p = t.2.notified p ++ l ∧ Announces c l ∧
      ((calls p).cancels = true → ∃ r, c = .done r)

/-- The state in which a call finds itself after its turn. -/
abbrev after (visitorId : Id) (p : π) (c : Call VisitorWithRelations) (t : Db × Account π) :
    Db × Account π :=
  ((advance c t.1).2, record visitorId p t.1 (advance c t.1).2 t.2)

theorem sound_of_quiet (howed : t.2.owed p = []) (hnotified : t.2.notified p = [])
    (hsame : (advance c t.1).2 = t.1)
    (hnext : (advance c t.1).1.Until (· = id) (Writes visitorId (calls p))) :
    Sound visitorId calls p (advance c t.1).1 (after visitorId p c t) := by
  refine .inl ⟨?_, ?_, hnext⟩
  · rw [record_quiet (congrArg Db.visitors hsame)]
    exact howed
  · rw [record_notified, newRecipients_of_same (congrArg Db.notifications hsame), hnotified]
    rfl

theorem findUnique_patched {db : Db} {data : VisitorUpdateInput} {v : Visitor}
    (hfound : db.visitors.findUnique visitorId = some v) :
    (db.visitors.modify visitorId (data.patch env)).findUnique visitorId =
      some ((data.patch env).apply v) := by
  obtain ⟨hv, rfl⟩ := Table.findUnique_eq_some.mp hfound
  exact Table.findUnique_modify hv

theorem owed_of_written {data : VisitorUpdateInput} {v : Visitor}
    (howed : t.2.owed p = []) (hnotified : t.2.notified p = [])
    (hfound : t.1.visitors.findUnique visitorId = some v)
    (hwritten : (advance c t.1).2 =
      { t.1 with visitors := t.1.visitors.modify visitorId (data.patch env) }) :
    (after visitorId p c t).2.notified p = [] ∧
      (after visitorId p c t).2.owed p =
        if v.status ≠ .ARRIVED ∧ ((data.patch env).apply v).status = .ARRIVED then
          activeResidents t.1 ((data.patch env).apply v).unitId else [] := by
  have hafter := @findUnique_patched visitorId env t.1 data v hfound
  refine ⟨?_, ?_⟩
  · have hquiet : newRecipients t.1 (advance c t.1).2 = [] :=
      newRecipients_of_same (by rw [hwritten])
    rw [record_notified, hquiet, hnotified]
    rfl
  · rw [record_owed, hwritten, howed, List.nil_append]
    simp only [arrives, statusOf, residentsOf, hfound, hafter, Option.map_some, Option.some.injEq,
      Option.getD_some, decide_eq_true_eq, ne_eq]
    rfl

theorem sound_of_update {user : Option AuthenticatedUser} {buildingId : Id} {dto : UpdateVisitorDto}
    {data : VisitorUpdateInput} {previousStatus : VisitorStatus}
    (howed : t.2.owed p = []) (hnotified : t.2.notified p = [])
    (hcall : calls p = .update env user buildingId dto)
    (hc : c = writeAndNotify env user visitorId data previousStatus)
    (hguard : FindsAsRead visitorId calls p () c t) :
    Sound visitorId calls p (advance c t.1).1 (after visitorId p c t) := by
  have hadvance : advance c t.1 =
      (Script.done (Script.outcome (updateStatement env visitorId data t.1)) >>= fun updated =>
        notifyResidentsOnArrival user previousStatus updated >>= fun _ => pure updated,
        final (updateStatement env visitorId data t.1)) := by
    rw [hc]
    rfl
  obtain ⟨e, herror⟩ | ⟨v, hfound, hok⟩ := @updateStatement_cases visitorId env data t.1
  · refine sound_of_quiet howed hnotified ?_ ?_
    · rw [hadvance, herror]
      rfl
    · rw [hadvance, herror]
      trivial
  · have hread := hguard v hfound
    rw [hcall] at hread
    have hread := hread data previousStatus hc
    obtain ⟨hnone, hdue⟩ := @owed_of_written π _ visitorId p c t env data v howed hnotified
      hfound (by rw [hadvance, hok]; rfl)
    have hnext : (advance c t.1).1 =
        (notifyResidentsOnArrival user previousStatus
          (t.1.visitorInclude ((data.patch env).apply v)) >>= fun _ =>
            pure (t.1.visitorInclude ((data.patch env).apply v))) := by
      rw [hadvance, hok]
      rfl
    have hcancels : (calls p).cancels = true → ∃ r, (advance c t.1).1 = .done r := by
      rw [hcall]
      exact nofun
    rw [hnext] at hcancels ⊢
    by_cases htells : previousStatus ≠ .ARRIVED ∧ ((data.patch env).apply v).status = .ARRIVED
    · refine .inr ⟨_, ?_, announces_notify htells.1 htells.2 _, hcancels⟩
      rw [hnone, hdue, List.nil_append]
      split_ifs with harrives
      · rfl
      · by_contra hresidents
        exact harrives ⟨fun harrived => htells.1 ((hread htells.2 fun h => hresidents h.symm).mpr
          harrived), htells.2⟩
    · have hsilent : previousStatus = .ARRIVED ∨
          (t.1.visitorInclude ((data.patch env).apply v)).visitor.status ≠ .ARRIVED := by
        rwa [ne_eq, not_and_or, not_not] at htells
      refine .inr ⟨[], ?_, announces_nothing hsilent _, hcancels⟩
      rw [hnone, hdue, List.nil_append]
      split_ifs with harrives
      · by_contra hresidents
        exact harrives.1 ((hread harrives.2 hresidents).mp
          (hsilent.resolve_right fun hstatus => hstatus harrives.2))
      · rfl

/-- A write that leaves no visitor arrived who was not ends the call with nothing to tell. -/
theorem sound_of_write {data : VisitorUpdateInput} (howed : t.2.owed p = [])
    (hnotified : t.2.notified p = []) (hc : c = repoUpdate env visitorId data)
    (hstatus : ∀ v, ((data.patch env).apply v).status = .ARRIVED → v.status = .ARRIVED) :
    Sound visitorId calls p (advance c t.1).1 (after visitorId p c t) := by
  have hadvance : advance c t.1 =
      (Script.done (Script.outcome (updateStatement env visitorId data t.1)),
        final (updateStatement env visitorId data t.1)) := by
    rw [hc]
    rfl
  obtain ⟨e, herror⟩ | ⟨v, hfound, hok⟩ := @updateStatement_cases visitorId env data t.1
  · refine sound_of_quiet howed hnotified ?_ ?_
    · rw [hadvance, herror]
      rfl
    · rw [hadvance, herror]
      trivial
  · obtain ⟨hnone, hdue⟩ := @owed_of_written π _ visitorId p c t env data v howed hnotified
      hfound (by rw [hadvance, hok]; rfl)
    refine .inr ⟨[], ?_, ?_, fun _ => ?_⟩
    · rw [hnone, hdue, if_neg fun h => h.1 (hstatus v h.2)]
      rfl
    · rw [hadvance]
      rfl
    · rw [hadvance]
      exact ⟨_, rfl⟩

theorem sound_turn (hsound : Sound visitorId calls p c t)
    (hguard : FindsAsRead visitorId calls p () c t) :
    Sound visitorId calls p (advance c t.1).1 (after visitorId p c t) := by
  obtain ⟨howed, hnotified, huntil⟩ | ⟨l, howed, hannounces, hcancels⟩ := hsound
  · cases c with
    | done r => exact sound_of_quiet howed hnotified rfl huntil
    | step effect next =>
      obtain hwrites | ⟨hid, hnext⟩ := huntil
      · cases hcall : calls p with
        | update env user buildingId dto =>
          rw [hcall] at hwrites
          obtain ⟨data, previousStatus, hc⟩ := hwrites
          exact sound_of_update howed hnotified hcall hc hguard
        | updateResident env user dto =>
          rw [hcall] at hwrites
          obtain ⟨data, hstatus, hc⟩ := hwrites
          refine sound_of_write howed hnotified hc fun v h => ?_
          simpa [VisitorUpdateInput.patch, hstatus] using h
        | cancelResident env user =>
          rw [hcall] at hwrites
          refine sound_of_write howed hnotified hwrites fun v h => ?_
          simp [VisitorUpdateInput.patch, cancellation] at h
      · exact sound_of_quiet howed hnotified (congrFun hid t.1) (hnext t.1)
  · cases c with
    | done r =>
      have hquiet : (after visitorId p (.done r) t).2.owed p = t.2.owed p := record_quiet rfl
      have htold : (after visitorId p (.done r) t).2.notified p = t.2.notified p ++ [] :=
        record_notified.trans (congrArg _ (newRecipients_of_same rfl))
      refine .inr ⟨l, ?_, hannounces, hcancels⟩
      rw [hquiet, htold, List.append_nil]
      exact howed
    | step effect next =>
      obtain ⟨l₁, l₂, rfl, hstep⟩ := hannounces
      obtain ⟨hvisitors, hrecipients, hnext⟩ := hstep t.1
      have hquiet : (after visitorId p (.step effect next) t).2.owed p = t.2.owed p :=
        record_quiet hvisitors
      have htold : (after visitorId p (.step effect next) t).2.notified p =
          t.2.notified p ++ l₁ := record_notified.trans (congrArg _ hrecipients)
      refine .inr ⟨l₂, ?_, hnext, fun h => ?_⟩
      · rw [hquiet, htold, howed, List.append_assoc]
      · obtain ⟨r, hr⟩ := hcancels h
        cases hr

end Turns

section Runs

variable {π : Type} [DecidableEq π] {visitorId : Id} {calls : π → VisitorCall} {db : Db}
  {ls : List (π × Unit)}

abbrev runFrom (visitorId : Id) (calls : π → VisitorCall) (db : Db) (ls : List (π × Unit)) :
    State π :=
  Run.exec (Interleaving.next (turns visitorId)) (atStart visitorId calls db) ls

/-- The step with which a cancellation succeeds finds the visitor expected. -/
def CancelsExpected (visitorId : Id) (calls : π → VisitorCall) (db : Db)
    (ls : List (π × Unit)) : Prop :=
  ∀ ms p r, ms ++ [(p, ())] <+: ls → (calls p).cancels = true →
    (∀ r', (runFrom visitorId calls db ms).locals p ≠ .done r') →
      (runFrom visitorId calls db (ms ++ [(p, ())])).locals p = .done (.ok r) →
        statusOf visitorId (runFrom visitorId calls db ms).shared.1 = some .EXPECTED

/-- A call that is over has told of the arrival it brought about exactly those it concerns. -/
def NotifiesOnce (visitorId : Id) (calls : π → VisitorCall) (db : Db)
    (ls : List (π × Unit)) : Prop :=
  ∀ ms p r, ms <+: ls → (runFrom visitorId calls db ms).locals p = .done r →
    (runFrom visitorId calls db ms).shared.2.notified p =
      (runFrom visitorId calls db ms).shared.2.owed p

abbrev CoherentTurns (visitorId : Id) (calls : π → VisitorCall) : State π → Prop :=
  Coherent (fun _ => True) (Sound visitorId calls)

omit [DecidableEq π] in
theorem coherent_atStart : CoherentTurns visitorId calls (atStart visitorId calls db) :=
  ⟨trivial, fun p => .inl ⟨rfl, rfl, callScript_until (calls p)⟩⟩

theorem coherent_turn {m : π × Unit} {c : State π} (hc : CoherentTurns visitorId calls c)
    (hm : AtStep (FindsAsRead visitorId calls) m c) :
    CoherentTurns visitorId calls (Interleaving.next (turns visitorId) m c) := by
  refine coherent_next ⟨trivial, sound_turn (hc.locals m.1) hm⟩ fun q hq => ?_
  obtain ⟨howed, hnotified⟩ := @record_other π _ visitorId m.1 q c.shared.1
    (advance (c.locals m.1) c.shared.1).2 c.shared.2 hq
  have hsound := hc.locals q
  rw [Sound, ← howed, ← hnotified] at hsound
  exact hsound

theorem coherent_run
    (h : Run.Along (Interleaving.next (turns visitorId)) (AtStep (FindsAsRead visitorId calls))
      (atStart visitorId calls db) ls) :
    CoherentTurns visitorId calls (runFrom visitorId calls db ls) :=
  Run.exec_inv_along (fun _ _ => coherent_turn) coherent_atStart h

theorem notifiesOnce_of_along
    (h : Run.Along (Interleaving.next (turns visitorId)) (AtStep (FindsAsRead visitorId calls))
      (atStart visitorId calls db) ls) : NotifiesOnce visitorId calls db ls := by
  rintro ms p r ⟨rest, rfl⟩ hover
  have hsound := (coherent_run (Run.along_append.mp h).1).locals p
  rw [hover] at hsound
  obtain ⟨howed, hnotified, -⟩ | ⟨l, howed, hannounces, -⟩ := hsound
  · rw [howed, hnotified]
  · rw [howed, show l = [] from hannounces, List.append_nil]

theorem cancelsExpected_of_along
    (h : Run.Along (Interleaving.next (turns visitorId)) (AtStep (FindsAsRead visitorId calls))
      (atStart visitorId calls db) ls) : CancelsExpected visitorId calls db ls := by
  rintro ms p r ⟨rest, rfl⟩ hcancels hrunning hover
  rw [List.append_assoc] at h
  obtain ⟨hms, hguard⟩ := h.at_split
  have hsound := (coherent_run hms).locals p
  rw [runFrom, Run.exec_concat] at hover
  change (Interleaving.next (turns visitorId) (p, ()) (runFrom visitorId calls db ms)).locals p = _
    at hover
  change AtStep (FindsAsRead visitorId calls) (p, ()) (runFrom visitorId calls db ms) at hguard
  generalize runFrom visitorId calls db ms = c at *
  rw [Interleaving.next_self] at hover
  change (advance (c.locals p) c.shared.1).1 = _ at hover
  cases hcall : calls p with
  | update env user buildingId dto => simp [hcall, VisitorCall.cancels] at hcancels
  | updateResident env user dto => simp [hcall, VisitorCall.cancels] at hcancels
  | cancelResident env user =>
    obtain ⟨-, -, huntil⟩ | ⟨l, -, -, hdone⟩ := hsound
    · cases hc : c.locals p with
      | done r' => exact absurd hc (hrunning r')
      | step effect next =>
        rw [hc] at huntil hover
        obtain hwrites | ⟨-, hnext⟩ := huntil
        · rw [hcall] at hwrites
          have hwrite : c.locals p = repoUpdate env visitorId cancellation := hc.trans hwrites
          rw [hwrites] at hover
          obtain ⟨e, herror⟩ | ⟨v, hfound, -⟩ :=
            @updateStatement_cases visitorId env cancellation c.shared.1
          · have hfails : (advance (repoUpdate env visitorId cancellation) c.shared.1).1 =
                .done (.error e) := by
              change Script.done (Script.outcome (updateStatement env visitorId cancellation
                c.shared.1)) = _
              rw [herror]
              rfl
            cases hfails.symm.trans hover
          · have hexpected := hguard v hfound
            rw [hcall] at hexpected
            rw [statusOf, hfound]
            exact congrArg some (hexpected hwrite)
        · have hleft := hnext c.shared.1
          rw [show next c.shared.1 = .done (.ok r) from hover] at hleft
          exact hleft.elim
    · obtain ⟨r', hr'⟩ := hdone hcancels
      exact absurd hr' (hrunning r')

end Runs

section Guards

variable {π : Type} {visitorId : Id} {calls : π → VisitorCall} {p : π} {env : Env}
  {user : Option AuthenticatedUser} {data : VisitorUpdateInput} {previousStatus : VisitorStatus}
  {buildingId : Id} {dto : UpdateVisitorDto} {db : Db} {c : Call VisitorWithRelations}
  {t : Db × Account π}

theorem advance_arrived :
    ∃ r, (advance (writeAndNotify env user visitorId data .ARRIVED) db).1 = .done r := by
  change ∃ r, (Script.done (Script.outcome (updateStatement env visitorId data db)) >>=
    fun updated => notifyResidentsOnArrival user .ARRIVED updated >>= fun _ => pure updated) =
      .done r
  obtain ⟨e, herror⟩ | ⟨v, -, hok⟩ := @updateStatement_cases visitorId env data db
  · rw [herror]
    exact ⟨_, rfl⟩
  · rw [hok]
    exact ⟨_, rfl⟩

theorem advance_write_notifications :
    (advance (writeAndNotify env user visitorId data previousStatus) db).2.notifications =
      db.notifications := by
  change (final (updateStatement env visitorId data db)).notifications = _
  obtain ⟨e, herror⟩ | ⟨v, -, hok⟩ := @updateStatement_cases visitorId env data db
  · rw [herror]
    rfl
  · rw [hok]
    rfl

theorem findsAsRead_of_expected (hcall : calls p = .cancelResident env user)
    (hstatus : statusOf visitorId t.1 = some .EXPECTED) : FindsAsRead visitorId calls p () c t := by
  intro v hfound
  rw [statusOf, hfound] at hstatus
  rw [hcall]
  exact fun _ => Option.some.inj hstatus

/-- Before the visitor arrives: an update with more to do after its next step has not read the
visitor arrived. -/
theorem findsAsRead_of_more (hcall : calls p = .update env user buildingId dto)
    (hstatus : statusOf visitorId t.1 ≠ some .ARRIVED)
    (hmore : ∀ r, (advance c t.1).1 ≠ .done r) : FindsAsRead visitorId calls p () c t := by
  intro v hfound
  rw [statusOf, hfound] at hstatus
  rw [hcall]
  rintro data previousStatus rfl _ _
  refine iff_of_false ?_ fun harrived => hstatus (congrArg some harrived)
  rintro rfl
  obtain ⟨r, hr⟩ := @advance_arrived visitorId env user data t.1
  exact hmore r hr

/-- After it: a step that tells somebody is not the write. -/
theorem findsAsRead_of_telling (hcall : calls p = .update env user buildingId dto)
    (htells : (advance c t.1).2.notifications ≠ t.1.notifications) :
    FindsAsRead visitorId calls p () c t := by
  intro v hfound
  rw [hcall]
  rintro data previousStatus rfl _ _
  exact absurd advance_write_notifications htells

end Guards

section Overlaps

/-- A unit where Ann lives, and a visitor whom she expects. -/
def lodge : Db where
  buildings := ⟨[⟨"lodge", "org", "Lodge", "Dubai"⟩], by decide⟩
  units := ⟨[⟨"unit", "lodge", "101", none, none⟩], by decide⟩
  occupancies := ⟨⟨[⟨"home", "lodge", "unit", "ann", .ACTIVE, 0, none, 0, 0⟩], by decide⟩, by decide⟩
  residentIds := by decide
  visitors := ⟨[⟨"guest", "org", "lodge", "unit", .GUEST_VISITOR, .EXPECTED, "Guest", "1", none,
    none, none, none, 0, 0⟩], by decide⟩
  notifications := []

def lodgeEnv : Env := ⟨1, fun _ => none⟩

def arrivalOf : UpdateVisitorDto where
  type := .undefined
  visitorName := .undefined
  phoneNumber := .undefined
  emiratesId := .undefined
  vehicleNumber := .undefined
  expectedArrivalAt := .undefined
  notes := .undefined
  unitId := .undefined
  status := .value .ARRIVED

def receives : VisitorCall := .update lodgeEnv (some ⟨"porter", some "org"⟩) "lodge" arrivalOf

/-- Ann cancels the visit while the porter receives the visitor. -/
def annCancels : Bool → VisitorCall
  | true => .cancelResident lodgeEnv (some ⟨"ann", some "org"⟩)
  | false => receives

/-- Ann has read the visitor expected when the porter's update commits. -/
def arrivedMeanwhile : List (Bool × Unit) :=
  List.replicate 2 (true, ()) ++ List.replicate 4 (false, ())

/-- Two porters read the visitor expected, and both write and tell. -/
def receivedTwice : List (Bool × Unit) :=
  List.replicate 2 (true, ()) ++ List.replicate 4 (false, ()) ++ List.replicate 2 (true, ())

/-- Ann cancels the visit, and the visitor comes all the same. -/
def comesAllTheSame : List (Bool × Unit) :=
  List.replicate 3 (true, ()) ++ List.replicate 4 (false, ())

theorem arrived_visitor_cancelled_and_announced_twice :
    (¬ ∀ (visitorId : Id) (calls : Bool → VisitorCall) (db : Db) (ls : List (Bool × Unit)),
      CancelsExpected visitorId calls db ls) ∧
    ¬ ∀ (visitorId : Id) (calls : Bool → VisitorCall) (db : Db) (ls : List (Bool × Unit)),
      NotifiesOnce visitorId calls db ls := by
  refine ⟨fun h => ?_, fun h => ?_⟩
  · have hwrite : (runFrom "guest" annCancels lodge arrivedMeanwhile).locals true =
        repoUpdate lodgeEnv "guest" cancellation := rfl
    have hexpected := h "guest" annCancels lodge (arrivedMeanwhile ++ [(true, ())])
      arrivedMeanwhile true _ (List.prefix_refl _) rfl (fun _ hdone => by cases hwrite.symm.trans hdone)
      rfl
    exact absurd hexpected (by decide)
  · have hnotified := h "guest" (fun _ => receives) lodge receivedTwice receivedTwice true _
      (List.prefix_refl _) rfl
    exact absurd hnotified (by decide)

end Overlaps

theorem arrivals_and_cancellations_on_what_was_read {π : Type} [DecidableEq π] (visitorId : Id)
    (calls : π → VisitorCall) (db : Db) (ls : List (π × Unit))
    (h : Run.Along (Interleaving.next (turns visitorId)) (AtStep (FindsAsRead visitorId calls))
      (atStart visitorId calls db) ls) :
    CancelsExpected visitorId calls db ls ∧ NotifiesOnce visitorId calls db ls :=
  ⟨cancelsExpected_of_along h, notifiesOnce_of_along h⟩

theorem cancelled_visitor_announced_once :
    CancelsExpected "guest" annCancels lodge comesAllTheSame ∧
      NotifiesOnce "guest" annCancels lodge comesAllTheSame := by
  refine arrivals_and_cancellations_on_what_was_read "guest" annCancels lodge comesAllTheSame
    ⟨?_, ?_, ?_, ?_, ?_, ?_, ?_, trivial⟩
  · exact findsAsRead_of_expected rfl rfl
  · exact findsAsRead_of_expected rfl rfl
  · exact findsAsRead_of_expected rfl rfl
  · exact findsAsRead_of_more rfl (by decide) fun _ h => by cases h
  · exact findsAsRead_of_more rfl (by decide) fun _ h => by cases h
  · exact findsAsRead_of_more rfl (by decide) fun _ h => by cases h
  · exact findsAsRead_of_telling rfl (by decide)

end Towerdesk.Visitors
