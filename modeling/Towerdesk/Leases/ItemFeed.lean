import Towerdesk.Leases.AccessItems
import Towerdesk.Lib.Replay

/-!
# The activity of a lease as its inventory

Each call on cards and stickers leaves a row in the activity of the lease. Read in order, the
rows say which numbers the lease has and how each stands; a move-in that issues items and a
move-out that takes them back leave no such row.
-/

namespace Towerdesk.Leases.AccessItems

open Replay (replay)

section Feed

def AccessItemStatus.ofText (s : String) : Option AccessItemStatus :=
  if s = "ISSUED" then some .ISSUED
  else if s = "RETURNED" then some .RETURNED
  else if s = "DEACTIVATED" then some .DEACTIVATED
  else none

theorem ofText_toText (status : AccessItemStatus) :
    AccessItemStatus.ofText (AccessItemStatus.toText status) = some status := by
  cases status <;> decide

def LeaseActivity.text (row : LeaseActivity) (field : String) : Option String :=
  match row.payload.lookup field with
  | some (.text s) => some s
  | _ => none

def LeaseActivity.texts (row : LeaseActivity) (field : String) : List String :=
  match row.payload.lookup field with
  | some (.texts ss) => ss
  | _ => []

/-- What a row of the activity says of the items, number by number. -/
def itemChanges (kind : ItemKind) (row : LeaseActivity) :
    List (String × Option AccessItemStatus) :=
  if row.action = kind.issued then
    (row.texts kind.numbersField).map fun number => (number, some .ISSUED)
  else if row.action = kind.statusChanged then
    [((row.text kind.numberField).getD "", (row.text "to").bind AccessItemStatus.ofText)]
  else if row.action = kind.deleted then [((row.text kind.numberField).getD "", none)]
  else []

def feedOf (kind : ItemKind) (activity : List LeaseActivity) (leaseId : Id) :
    List (String × Option AccessItemStatus) :=
  (activity.filter (·.leaseId = leaseId)).flatMap (itemChanges kind)

/-- How the number stands, from the activity alone. -/
def replayItems (kind : ItemKind) (activity : List LeaseActivity) (leaseId : Id)
    (number : String) : Option AccessItemStatus :=
  replay Prod.fst Prod.snd (feedOf kind activity leaseId) none number

/-- How the number stands, from the items. -/
def inventory (db : Db) (kind : ItemKind) (leaseId : Id) (number : String) :
    Option AccessItemStatus :=
  ((db.items kind).table.rows.find? fun i => i.leaseId = leaseId ∧ i.number = number).map (·.status)

def Explained (db : Db) : Prop :=
  ∀ kind leaseId number, replayItems kind db.activity leaseId number = inventory db kind leaseId number

end Feed

section Inventory

variable {kind : ItemKind} {env : Env} {db : Db} {items : Items} {leaseId : Id} {number : String}
  {status : AccessItemStatus}

theorem inventory_eq_some :
    inventory db kind leaseId number = some status ↔
      ∃ i ∈ db.items kind, i.leaseId = leaseId ∧ i.number = number ∧ i.status = status := by
  rw [inventory, Option.map_eq_some_iff]
  constructor
  · rintro ⟨i, hfound, rfl⟩
    have hi := List.find?_some hfound
    exact ⟨i, List.mem_of_find?_eq_some hfound, (of_decide_eq_true hi).1, (of_decide_eq_true hi).2,
      rfl⟩
  · rintro ⟨i, hi, rfl, rfl, rfl⟩
    refine ⟨i, ?_, rfl⟩
    cases hf : (db.items kind).table.rows.find? fun a =>
        a.leaseId = i.leaseId ∧ a.number = i.number with
    | none => simpa using List.find?_eq_none.mp hf i hi
    | some a =>
      -- the pair of lease and number is a key
      have ha : a.leaseId = i.leaseId ∧ a.number = i.number := by simpa using List.find?_some hf
      have hmem : a ∈ (db.items kind).table := List.mem_of_find?_eq_some hf
      have hunique := uniqueOn_of_check.mp (db.items kind).valid
      have hkey : numberKey a = some (i.leaseId, i.number) := by rw [numberKey, ha.1, ha.2]
      rw [hunique.eq hmem hi hkey rfl]

theorem inventory_congr {db' : Db} (h : db'.items kind = db.items kind) :
    inventory db' kind leaseId number = inventory db kind leaseId number := by
  rw [inventory, h]
  rfl

theorem inventory_eq_none :
    inventory db kind leaseId number = none ↔
      ∀ i ∈ db.items kind, ¬ (i.leaseId = leaseId ∧ i.number = number) := by
  rw [Option.eq_none_iff_forall_ne_some]
  constructor
  · rintro h i hi ⟨hlease, hnumber⟩
    exact h i.status (inventory_eq_some.mpr ⟨i, hi, hlease, hnumber, rfl⟩)
  · intro h status hstatus
    obtain ⟨i, hi, hlease, hnumber, -⟩ := inventory_eq_some.mp hstatus
    exact h i hi ⟨hlease, hnumber⟩

/-- The inventory is what the items say, number by number. -/
theorem inventory_eq {db' : Db} {v : Option AccessItemStatus}
    (h : ∀ status, (∃ i ∈ db'.items kind, i.leaseId = leaseId ∧ i.number = number ∧
      i.status = status) ↔ v = some status) : inventory db' kind leaseId number = v :=
  Option.ext fun status => inventory_eq_some.trans (h status)

theorem Issued.inventory {numbers : List String} (h : Issued kind env leaseId numbers db items)
    {db' : Db} (hitems : db'.items kind = items) (leaseId' : Id) (number : String) :
    inventory db' kind leaseId' number =
      if leaseId = leaseId' ∧ number ∈ numbers then some .ISSUED
      else inventory db kind leaseId' number := by
  refine inventory_eq fun status => ?_
  rw [hitems]
  split_ifs with hnew
  · obtain ⟨rfl, hnumber⟩ := hnew
    constructor
    · rintro ⟨i, hi, hlease, rfl, rfl⟩
      rcases (mem_issued h.rows).mp hi with hi | hi
      · have hnone := List.filter_eq_nil_iff.mp h.free i hi
        simp [hlease, hnumber] at hnone
      · obtain ⟨index, -, rfl⟩ := List.mem_mapIdx.mp hi
        rfl
    · intro hstatus
      obtain ⟨index, hindex, rfl⟩ := List.getElem_of_mem hnumber
      exact ⟨newItem env leaseId index numbers[index],
        (mem_issued h.rows).mpr (.inr (List.mem_mapIdx.mpr ⟨index, hindex, rfl⟩)), rfl, rfl,
        Option.some.inj hstatus⟩
  · rw [inventory_eq_some]
    constructor
    · rintro ⟨i, hi, rfl, rfl, rfl⟩
      rcases (mem_issued h.rows).mp hi with hi | hi
      · exact ⟨i, hi, rfl, rfl, rfl⟩
      · obtain ⟨index, hindex, rfl⟩ := List.mem_mapIdx.mp hi
        exact absurd ⟨rfl, List.getElem_mem hindex⟩ hnew
    · rintro ⟨i, hi, rfl, rfl, rfl⟩
      exact ⟨i, (mem_issued h.rows).mpr (.inl hi), rfl, rfl, rfl⟩

/-- Two items of a lease with one number are one item. -/
theorem eq_of_number_eq {i i' : Item} (hi : i ∈ db.items kind) (hi' : i' ∈ db.items kind)
    (hlease : i.leaseId = i'.leaseId) (hnumber : i.number = i'.number) : i = i' := by
  have hkey : numberKey i = numberKey i' := by rw [numberKey, numberKey, hlease, hnumber]
  exact (uniqueOn_of_check.mp (db.items kind).valid).eq hi hi' hkey rfl

theorem Changed.inventory {item : Item} {nextStatus : AccessItemStatus}
    (h : Changed kind env item nextStatus db items) {db' : Db} (hitems : db'.items kind = items)
    (leaseId' : Id) (number : String) :
    inventory db' kind leaseId' number =
      if item.leaseId = leaseId' ∧ item.number = number then some nextStatus
      else inventory db kind leaseId' number := by
  refine inventory_eq fun status => ?_
  rw [hitems]
  split_ifs with hself
  · obtain ⟨rfl, rfl⟩ := hself
    constructor
    · rintro ⟨i, hi, hlease, hnumber, rfl⟩
      rcases h.mem_iff.mp hi with rfl | ⟨hi, hid⟩
      · rfl
      · exact absurd (congrArg Item.id (eq_of_number_eq hi h.mem hlease hnumber)) hid
    · intro hstatus
      exact ⟨_, h.mem_iff.mpr (.inl rfl), rfl, rfl, Option.some.inj hstatus⟩
  · rw [inventory_eq_some]
    constructor
    · rintro ⟨i, hi, rfl, rfl, rfl⟩
      rcases h.mem_iff.mp hi with rfl | ⟨hi, -⟩
      · exact absurd ⟨rfl, rfl⟩ hself
      · exact ⟨i, hi, rfl, rfl, rfl⟩
    · rintro ⟨i, hi, rfl, rfl, rfl⟩
      refine ⟨i, h.mem_iff.mpr (.inr ⟨hi, fun hid => hself ?_⟩), rfl, rfl, rfl⟩
      rw [Table.eq_of_key_eq hi h.mem hid]
      exact ⟨rfl, rfl⟩

theorem inventory_deleteRow {item : Item} (hitem : item ∈ db.items kind) {db' : Db}
    (hitems : db'.items kind = deleteRow (db.items kind) item.id) (leaseId' : Id)
    (number : String) :
    inventory db' kind leaseId' number =
      if item.leaseId = leaseId' ∧ item.number = number then none
      else inventory db kind leaseId' number := by
  refine inventory_eq fun status => ?_
  rw [hitems]
  simp only [mem_deleteRow]
  split_ifs with hself
  · obtain ⟨rfl, rfl⟩ := hself
    refine iff_of_false ?_ nofun
    rintro ⟨i, ⟨hi, hid⟩, hlease, hnumber, -⟩
    exact hid (congrArg Item.id (eq_of_number_eq hi hitem hlease hnumber))
  · rw [inventory_eq_some]
    constructor
    · rintro ⟨i, ⟨hi, -⟩, hrest⟩
      exact ⟨i, hi, hrest⟩
    · rintro ⟨i, hi, rfl, rfl, rfl⟩
      refine ⟨i, ⟨hi, fun hid => hself ?_⟩, rfl, rfl, rfl⟩
      rw [Table.eq_of_key_eq hi hitem hid]
      exact ⟨rfl, rfl⟩

end Inventory

section Replaying

variable {kind kind' : ItemKind} {env : Env} {user : Option AuthenticatedUser} {leaseId orgId : Id}
  {number : String} {activity : List LeaseActivity} {row : LeaseActivity} {item : Item}
  {v : Option AccessItemStatus} {nextStatus : AccessItemStatus}

theorem replayItems_append (number : String) :
    replayItems kind (activity ++ [row]) leaseId number =
      replay Prod.fst Prod.snd (if row.leaseId = leaseId then itemChanges kind row else [])
        (replayItems kind activity leaseId number) number := by
  have hfeed : feedOf kind (activity ++ [row]) leaseId = feedOf kind activity leaseId ++
      if row.leaseId = leaseId then itemChanges kind row else [] := by
    rw [feedOf, List.filter_append, List.flatMap_append]
    by_cases hlease : row.leaseId = leaseId
    · simp [feedOf, hlease]
    · simp [feedOf, hlease]
  rw [replayItems, hfeed, Replay.replay_append]
  rfl

theorem replay_issued (numbers : List String) :
    replay Prod.fst Prod.snd (numbers.map fun n => (n, some AccessItemStatus.ISSUED)) v number =
      if number ∈ numbers then some .ISSUED else v := by
  refine Replay.replay_eq_of_forall (fun e he hnumber => ?_) fun hnone => ?_
  · obtain ⟨n, hn, rfl⟩ := List.mem_map.mp he
    obtain rfl : n = number := hnumber
    rw [if_pos hn]
  · rw [if_neg fun hmem => hnone _ (List.mem_map_of_mem hmem) rfl]

theorem replay_single (n : String) (w : Option AccessItemStatus) :
    replay Prod.fst Prod.snd [(n, w)] v number = if n = number then w else v := rfl

theorem itemChanges_issuedRow (numbers : List String) :
    itemChanges kind (issuedRow kind env user leaseId orgId numbers) =
      numbers.map fun n => (n, some .ISSUED) := by
  cases kind <;> rfl

theorem itemChanges_statusChangedRow :
    itemChanges kind (statusChangedRow kind env user leaseId orgId item nextStatus) =
      [(item.number, some nextStatus)] := by
  rw [← ofText_toText nextStatus]
  cases kind <;> rfl

theorem itemChanges_deletedRow :
    itemChanges kind (deletedRow kind env user leaseId orgId item) = [(item.number, none)] := by
  cases kind <;> rfl

/-- The rows of cards say nothing of stickers, nor the other way round. -/
theorem itemChanges_of_ne (hkind : kind' ≠ kind)
    (haction : row.action = kind.issued ∨ row.action = kind.statusChanged ∨
      row.action = kind.deleted) : itemChanges kind' row = [] := by
  have hothers : row.action ≠ kind'.issued ∧ row.action ≠ kind'.statusChanged ∧
      row.action ≠ kind'.deleted := by
    cases kind <;> cases kind' <;> first
      | exact absurd rfl hkind
      | rcases haction with h | h | h <;> rw [h] <;> decide
  rw [itemChanges, if_neg hothers.1, if_neg hothers.2.1, if_neg hothers.2.2]

end Replaying

section Runs

variable {kind : ItemKind} {db : Db} {items : Items} {row : LeaseActivity}

theorem setItems_of_ne {kind' : ItemKind} (hkind : kind' ≠ kind) :
    (db.setItems kind items).items kind' = db.items kind' := by
  rw [items_setItems, if_neg hkind]

theorem setItems_self : (db.setItems kind items).items kind = items := by
  rw [items_setItems, if_pos rfl]

theorem explained_recorded (hdb : Explained db)
    (haction : row.action = kind.issued ∨ row.action = kind.statusChanged ∨
      row.action = kind.deleted)
    (hself : ∀ leaseId number, inventory (db.setItems kind items) kind leaseId number =
      replay Prod.fst Prod.snd (if row.leaseId = leaseId then itemChanges kind row else [])
        (inventory db kind leaseId number) number) :
    Explained { db.setItems kind items with activity := db.activity ++ [row] } := by
  intro kind' leaseId number
  have hitems : inventory { db.setItems kind items with activity := db.activity ++ [row] } kind'
      leaseId number = inventory (db.setItems kind items) kind' leaseId number := rfl
  rw [hitems, replayItems_append, hdb kind' leaseId number]
  by_cases hkind : kind' = kind
  · subst hkind
    exact (hself leaseId number).symm
  · rw [itemChanges_of_ne hkind haction, ite_self, inventory_congr (setItems_of_ne hkind)]
    rfl

/-- A move-in brings no items, or is refused; a move-out finds none that are out. -/
def Quiet (c : Env × ItemCall) (db : Db) : Prop :=
  match c.2 with
  | .moveIn _ _ numbers => numbers = [] ∨ next c db = db
  | .moveOut kind leaseId => ∀ i ∈ db.items kind, i.leaseId = leaseId → i.status ≠ .ISSUED
  | _ => True

theorem explained_moveIn (hdb : Explained db) (env : Env) (lease : Lease) (numbers : List String) :
    Explained (next (env, .moveIn kind lease numbers) db) ↔
      Quiet (env, .moveIn kind lease numbers) db := by
  obtain hsame | ⟨leases, items, hitems, hfinal⟩ :=
    @moveIn_cases kind env db lease numbers
  · have hnext : next (env, .moveIn kind lease numbers) db = db := hsame
    rw [hnext]
    exact iff_of_true hdb (.inr hnext)
  · have hnext : next (env, .moveIn kind lease numbers) db = { db.setItems kind items with leases } :=
      hfinal
    rcases hitems with ⟨hempty, rfl⟩ | ⟨hsome, hissued⟩
    · refine iff_of_true (fun kind' leaseId number => ?_) (.inl hempty)
      have hkept : (next (env, .moveIn kind lease numbers) db).items kind' = db.items kind' := by
        rw [hnext]
        by_cases hkind : kind' = kind
        · subst hkind
          exact setItems_self
        · exact setItems_of_ne hkind
      rw [inventory_congr hkept, hnext]
      exact hdb kind' leaseId number
    · obtain ⟨number, hnumber⟩ := List.exists_mem_of_ne_nil _ hsome
      -- the number is new to the lease, and no row speaks of it
      have hbefore : inventory db kind lease.id number = none := by
        refine inventory_eq_none.mpr fun i hi hi' => ?_
        have hnone := List.filter_eq_nil_iff.mp hissued.free i hi
        simp [hi'.1, hi'.2, hnumber] at hnone
      have hafter : inventory (next (env, .moveIn kind lease numbers) db) kind lease.id number =
          some .ISSUED := by
        have hitems : (next (env, .moveIn kind lease numbers) db).items kind = items :=
          hnext ▸ setItems_self
        rw [hissued.inventory hitems, if_pos ⟨rfl, hnumber⟩]
      refine iff_of_false (fun hexplained => ?_) ?_
      · have hreplay := hexplained kind lease.id number
        rw [hafter, hnext] at hreplay
        have hold := hdb kind lease.id number
        rw [hbefore] at hold
        exact Option.some_ne_none _ (hreplay.symm.trans hold)
      · rintro (hempty | hsame)
        · rw [hempty] at hsome
          exact hsome rfl
        · rw [hsame, hbefore] at hafter
          cases hafter

theorem explained_moveOut (hdb : Explained db) (env : Env) (leaseId : Id) :
    Explained (next (env, .moveOut kind leaseId) db) ↔ Quiet (env, .moveOut kind leaseId) db := by
  have hnext : next (env, .moveOut kind leaseId) db = returnAtMoveOut kind env leaseId db := rfl
  by_cases hquiet : Quiet (env, .moveOut kind leaseId) db
  · have htable : (db.items kind).table.modifyWhere
        (fun i => i.leaseId = leaseId ∧ i.status = .ISSUED) (returned env.now) =
        (db.items kind).table := by
      refine Table.modifyWhere_eq_self fun i hi => decide_eq_false ?_
      rintro ⟨hlease, hissued⟩
      exact hquiet i hi hlease hissued
    refine iff_of_true (fun kind' lease number => ?_) hquiet
    have hkept : (next (env, .moveOut kind leaseId) db).items kind' = db.items kind' := by
      rw [hnext, returnAtMoveOut]
      by_cases hkind : kind' = kind
      · subst hkind
        rw [setItems_self]
        simp only [htable]
      · exact setItems_of_ne hkind
    rw [inventory_congr hkept]
    exact hdb kind' lease number
  · refine iff_of_false (fun hexplained => hquiet fun i hi hlease hissued => ?_) hquiet
    have hbefore := inventory_eq_some.mpr ⟨i, hi, rfl, rfl, hissued⟩
    have hreturned : (returned env.now).apply i ∈ (returnAtMoveOut kind env leaseId db).items kind := by
      rw [returnAtMoveOut, setItems_self]
      exact Table.mem_modifyWhere.mpr (.inl ⟨i, hi, decide_eq_true ⟨hlease, hissued⟩, rfl⟩)
    have hafter := inventory_eq_some.mpr ⟨_, hreturned, rfl, rfl, rfl⟩
    have hreplay := (hexplained kind i.leaseId i.number).trans hafter
    rw [hnext] at hreplay
    have hold := (hdb kind i.leaseId i.number).trans hbefore
    cases hold.symm.trans hreplay

/-- One call. -/
theorem explained_next (c : Env × ItemCall) (hdb : Explained db) :
    Explained (next c db) ↔ Quiet c db := by
  obtain ⟨env, call⟩ := c
  cases call with
  | create kind user leaseId numbers =>
    refine iff_of_true ?_ trivial
    obtain hsame | ⟨orgId, items, hissued, hfinal⟩ :=
      @create_cases kind env user leaseId db numbers
    · change Explained (ItemCall.perform env _ db)
      rwa [hsame]
    · change Explained ((ItemCall.create kind user leaseId numbers).perform env db)
      rw [hfinal]
      refine explained_recorded hdb (.inl rfl) fun lease number => ?_
      rw [hissued.inventory setItems_self, itemChanges_issuedRow]
      change _ = replay Prod.fst Prod.snd (if leaseId = lease then _ else []) _ number
      by_cases hlease : leaseId = lease
      · rw [if_pos hlease, replay_issued]
        simp only [hlease, true_and]
      · rw [if_neg hlease, if_neg fun h => hlease h.1]
        rfl
  | updateStatus kind user leaseId itemId nextStatus =>
    refine iff_of_true ?_ trivial
    obtain hsame | ⟨orgId, item, items, hitem, hchanged, hfinal⟩ :=
      @updateStatus_cases kind env user leaseId itemId db nextStatus
    · change Explained (ItemCall.perform env _ db)
      rwa [hsame]
    · change Explained ((ItemCall.updateStatus kind user leaseId itemId nextStatus).perform env db)
      rw [hfinal]
      refine explained_recorded hdb (.inr (.inl rfl)) fun lease number => ?_
      rw [hchanged.inventory setItems_self, itemChanges_statusChangedRow]
      change _ = replay Prod.fst Prod.snd (if leaseId = lease then _ else []) _ number
      rw [hitem]
      by_cases hlease : leaseId = lease
      · rw [if_pos hlease, replay_single]
        simp only [hlease, true_and]
      · rw [if_neg hlease, if_neg fun h => hlease h.1]
        rfl
  | delete kind user leaseId itemId =>
    refine iff_of_true ?_ trivial
    obtain hsame | ⟨orgId, item, hitem, hmem, hfinal⟩ :=
      @delete_cases kind env user leaseId itemId db
    · change Explained (ItemCall.perform env _ db)
      rwa [hsame]
    · change Explained ((ItemCall.delete kind user leaseId itemId).perform env db)
      rw [hfinal]
      refine explained_recorded hdb (.inr (.inr rfl)) fun lease number => ?_
      rw [inventory_deleteRow hmem setItems_self, itemChanges_deletedRow]
      change _ = replay Prod.fst Prod.snd (if leaseId = lease then _ else []) _ number
      rw [hitem]
      by_cases hlease : leaseId = lease
      · rw [if_pos hlease, replay_single]
        simp only [hlease, true_and]
      · rw [if_neg hlease, if_neg fun h => hlease h.1]
        rfl
  | moveIn kind lease numbers => exact explained_moveIn hdb env lease numbers
  | moveOut kind leaseId => exact explained_moveOut hdb env leaseId

/-- The activity accounts for every item in every state of a run, exactly if no move-in of the
run issues items and no move-out takes any back. -/
theorem activity_explains_items_iff (hdb : Explained db) (cs : List (Env × ItemCall)) :
    (∀ ms, ms <+: cs → Explained (Run.exec next db ms)) ↔ Run.Along next Quiet db cs := by
  have hstep : ∀ c s, True → Explained s → (Explained (next c s) ↔ Quiet c s) :=
    fun c s _ hs => explained_next c hs
  rw [Run.safe_iff_along (J := fun _ => True) (fun _ _ _ => trivial) hstep trivial]
  exact and_iff_right hdb

def emptyDb : Db where
  leases := sceneDb.leases
  items := fun _ => sceneItems .parkingSticker
  activity := []

theorem explained_emptyDb : Explained emptyDb := fun _ _ _ => rfl

/-- Two cards are issued, one comes back, and the tenant moves out with the other. -/
def sceneMoveOut : List (Env × ItemCall) :=
  [(sceneEnv 1, .create .accessCard sceneClerk "lease" ["A-17", "A-18"]),
    (sceneEnv 2, .updateStatus .accessCard sceneClerk "lease" "new" .RETURNED),
    (sceneEnv 3, .moveOut .accessCard "lease")]

theorem activity_explains_items_iff_scene :
    (∀ ms, ms <+: sceneMoveOut → Explained (Run.exec next emptyDb ms)) ↔
      Run.Along next Quiet emptyDb sceneMoveOut :=
  activity_explains_items_iff explained_emptyDb sceneMoveOut

end Runs

end Towerdesk.Leases.AccessItems
