import Towerdesk.Delivery.Task
import Towerdesk.Lib.Base64
import Towerdesk.Lib.Keyset
import Mathlib.Data.Prod.Lex
import Mathlib.Data.String.Basic

/-!
# Listing delivery tasks

The platform listing: the query with its filters, the page the repository reads, and the
cursor made from the last item and read back from the next query. A reader who follows the
cursors to the end sees every matching task once, in order, exactly when at every page
boundary the cursor falls between the two tasks: the milliseconds of the first are not in
its cursor.
-/

namespace Towerdesk.Delivery

open IsoDate (TimeValue)

/-- What the listing takes from outside the repository: the order of text in the database
and its test for a substring that ignores case, the reading of malformed UTF-8, and of
dates written otherwise than `toISOString` does. -/
structure Runtime (ι : Type*) where
  collate : Id ↪ ι
  containsInsensitive : String → String → Bool
  replaceMalformed : ByteArray → String
  parseOther : String → Option TimeValue

structure TaskFilter where
  kind : Option DeliveryTaskKind := none
  status : Option DeliveryTaskStatus := none
  orgId : Option String := none
  referenceType : Option String := none
  referenceId : Option String := none
  lastErrorContains : Option String := none

structure ListDeliveryTasksQueryDto extends TaskFilter where
  cursor : Option String := none
  limit : Option ℤ := none

structure CursorInfo where
  createdAt : TimeValue
  id : Id

structure DeliveryTasksPage where
  items : List DeliveryTask
  nextCursor : Option String

def DEFAULT_LIMIT : ℤ := 20

def MAX_LIMIT : ℤ := 100

section Repository

variable {ι : Type*} [LinearOrder ι] (runtime : Runtime ι)

def wanted {α : Type} [DecidableEq α] (asked found : Option α) : Bool :=
  match asked with
  | none => true
  | some _ => found = asked

def TaskFilter.passes (filter : TaskFilter) (task : DeliveryTask) : Bool :=
  wanted filter.kind (some task.kind) && wanted filter.status (some task.status) &&
    wanted (truthy filter.orgId) task.orgId &&
    wanted (truthy filter.referenceType) task.referenceType &&
    wanted (truthy filter.referenceId) task.referenceId &&
    match truthy filter.lastErrorContains with
    | none => true
    | some needle => task.lastError.any (runtime.containsInsensitive · needle)

def beforeCursor (cursor : Option CursorInfo) (task : DeliveryTask) : Bool :=
  match cursor with
  | none => true
  | some cursor => task.createdAt < cursor.createdAt ∨
      task.createdAt = cursor.createdAt ∧ runtime.collate task.id < runtime.collate cursor.id

/-- `orderBy: [{ createdAt: 'desc' }, { id: 'desc' }]` is descending in this. -/
def orderKey (createdAt : TimeValue) (id : Id) : TimeValue ×ₗ ι :=
  toLex (createdAt, runtime.collate id)

def taskKey (task : DeliveryTask) : TimeValue ×ₗ ι := orderKey runtime task.createdAt task.id

/-- The repository's `list`. -/
def findTasks (tasks : DeliveryTasks) (filter : TaskFilter) (take : ℕ)
    (cursor : Option CursorInfo) : List DeliveryTask :=
  ((Keyset.sorted (taskKey runtime) (tasks.rows.filter fun task =>
    filter.passes runtime task && beforeCursor runtime cursor task)).take take).map mapRecord

end Repository

section Service

variable {ι : Type*} [LinearOrder ι] (runtime : Runtime ι)

def encodeCursor (task : DeliveryTask) : String :=
  let text := String.ofList (IsoDate.toISOString task.createdAt ++ '|' :: task.id.toList)
  .ofList (Base64.encode text.toUTF8.data.toList)

/-- `new Date(text)`. -/
def dateOfText (text : List Char) : Option TimeValue :=
  (IsoDate.parse text).or (runtime.parseOther (.ofList text))

def decodeCursor (cursor : String) : Result CursorInfo :=
  let bytes : ByteArray := ⟨(Base64.decode cursor.toList).toArray⟩
  let decoded := (String.fromUTF8? bytes).getD (runtime.replaceMalformed bytes)
  match decoded.toList.splitOn '|' with
  | [createdAtRaw, id] =>
    match dateOfText runtime createdAtRaw with
    | none => .error (.badRequest "Invalid cursor")
    | some createdAt =>
      if id.isEmpty then .error (.badRequest "Invalid cursor") else .ok ⟨createdAt, .ofList id⟩
  | _ => .error (.badRequest "Invalid cursor")

def ListDeliveryTasksQueryDto.pageLimit (query : ListDeliveryTasksQueryDto) : ℕ :=
  (min (max (query.limit.getD DEFAULT_LIMIT) 1) MAX_LIMIT).toNat

def pageAt (tasks : DeliveryTasks) (query : ListDeliveryTasksQueryDto)
    (cursorInfo : Option CursorInfo) : DeliveryTasksPage :=
  let items := findTasks runtime tasks query.toTaskFilter (query.pageLimit + 1) cursorInfo
  let hasMore := query.pageLimit < items.length
  let sliced := if hasMore then items.take query.pageLimit else items
  ⟨sliced, if hasMore then sliced.getLast?.map encodeCursor else none⟩

def readCursor (cursor : Option String) : Result (Option CursorInfo) :=
  match truthy cursor with
  | none => .ok none
  | some cursor => some <$> decodeCursor runtime cursor

def list (tasks : DeliveryTasks) (query : ListDeliveryTasksQueryDto) :
    Result DeliveryTasksPage := do
  let cursorInfo ← readCursor runtime query.cursor
  return pageAt runtime tasks query cursorInfo

/-- What a reader sees who follows `nextCursor` from a cursor until it is absent. -/
inductive Walk (tasks : DeliveryTasks) (query : ListDeliveryTasksQueryDto) :
    Option String → List DeliveryTask → Prop
  | last {cursor : Option String} {items : List DeliveryTask}
      (h : list runtime tasks { query with cursor := cursor } = .ok ⟨items, none⟩) :
      Walk tasks query cursor items
  | more {cursor : Option String} {items rest : List DeliveryTask} {next : String}
      (h : list runtime tasks { query with cursor := cursor } = .ok ⟨items, some next⟩)
      (hrest : Walk tasks query (some next) rest) : Walk tasks query cursor (items ++ rest)

/-- The tasks that pass the filter, in the order of the listing. -/
def matching (tasks : DeliveryTasks) (filter : TaskFilter) : List DeliveryTask :=
  Keyset.sorted (taskKey runtime) (tasks.rows.filter (filter.passes runtime))

/-- At every page boundary the next task is before the last one in whole seconds, or
between its whole second and it. -/
def BoundariesReadable (tasks : DeliveryTasks) (query : ListDeliveryTasksQueryDto) : Prop :=
  ∀ pre a b post, matching runtime tasks query.toTaskFilter = pre ++ a :: b :: post →
    query.pageLimit ∣ pre.length + 1 →
      a.id ≠ "" ∧ '|' ∉ a.id.toList ∧ (b.createdAt < wholeSecond a.createdAt ∨
        b.createdAt = wholeSecond a.createdAt ∧ runtime.collate b.id < runtime.collate a.id)

end Service

section Cursors

variable {ι : Type*} {runtime : Runtime ι}

theorem decoded_encodeCursor (task : DeliveryTask) :
    String.fromUTF8? ⟨(Base64.decode (encodeCursor task).toList).toArray⟩ =
      some (.ofList (IsoDate.toISOString task.createdAt ++ '|' :: task.id.toList)) := by
  rw [encodeCursor, String.toList_ofList, Base64.decode_encode, Array.toArray_toList]
  exact dif_pos (String.isValidUTF8 _)

theorem dateOfText_toISOString (createdAt : TimeValue) :
    dateOfText runtime (IsoDate.toISOString createdAt) = some createdAt := by
  rw [dateOfText, IsoDate.parse_toISOString, Option.some_or]

theorem bar_not_mem_toISOString (createdAt : TimeValue) :
    '|' ∉ IsoDate.toISOString createdAt := by
  intro hmem
  have hle := IsoDate.toNat_le_of_mem createdAt '|' hmem
  exact absurd hle (by decide)

theorem splitOn_cursor (task : DeliveryTask) :
    (IsoDate.toISOString task.createdAt ++ '|' :: task.id.toList).splitOn '|' =
      IsoDate.toISOString task.createdAt :: task.id.toList.splitOn '|' :=
  List.splitOn_append_cons_self_of_not_mem (bar_not_mem_toISOString _) _

theorem decodeCursor_encodeCursor {task : DeliveryTask} (hid : task.id ≠ "")
    (hbar : '|' ∉ task.id.toList) :
    decodeCursor runtime (encodeCursor task) = .ok ⟨task.createdAt, task.id⟩ := by
  have hne : ¬ task.id.toList.isEmpty = true := by
    simpa using hid
  rw [decodeCursor]
  simp only [decoded_encodeCursor, Option.getD_some, String.toList_ofList, splitOn_cursor,
    List.splitOn_eq_singleton hbar, dateOfText_toISOString, if_neg hne, String.ofList_toList]

theorem decodeCursor_encodeCursor_error {task : DeliveryTask}
    (h : task.id = "" ∨ '|' ∈ task.id.toList) :
    decodeCursor runtime (encodeCursor task) = .error (.badRequest "Invalid cursor") := by
  rw [decodeCursor]
  simp only [decoded_encodeCursor, Option.getD_some, String.toList_ofList, splitOn_cursor]
  rcases h with hid | hbar
  · rw [hid]
    simp [dateOfText_toISOString]
  · -- a bar in the id makes a third part
    obtain ⟨before, after, hsplit⟩ := List.append_of_mem hbar
    rw [hsplit, List.splitOn_append_cons_self]
    obtain ⟨p, ps, hp⟩ := List.exists_cons_of_ne_nil (List.splitOn_ne_nil '|' before)
    obtain ⟨q, qs, hq⟩ := List.exists_cons_of_ne_nil (List.splitOn_ne_nil '|' after)
    rw [hp, hq]
    cases ps <;> rfl

theorem encodeCursor_ne_empty (task : DeliveryTask) : encodeCursor task ≠ "" := by
  intro hempty
  have hdecoded := decoded_encodeCursor task
  rw [hempty] at hdecoded
  have htext : some "" = some (String.ofList
      (IsoDate.toISOString task.createdAt ++ '|' :: task.id.toList)) := hdecoded
  have hlist := congrArg String.toList (Option.some.inj htext)
  simp at hlist

theorem readCursor_encodeCursor (task : DeliveryTask) :
    readCursor runtime (some (encodeCursor task)) =
      some <$> decodeCursor runtime (encodeCursor task) := by
  have htruthy : truthy (some (encodeCursor task)) = some (encodeCursor task) :=
    truthy_eq_some.mpr ⟨rfl, encodeCursor_ne_empty task⟩
  rw [readCursor, htruthy]

theorem readCursor_next_ne_none {task : DeliveryTask} :
    readCursor runtime (some (encodeCursor task)) ≠ .ok none := by
  rw [readCursor_encodeCursor]
  cases decodeCursor runtime (encodeCursor task) <;> simp

def cursorKey (runtime : Runtime ι) (cursor : CursorInfo) : TimeValue ×ₗ ι :=
  orderKey runtime cursor.createdAt cursor.id

/-- The cursor that the next query makes of a task, when it can be read back. -/
def nextKey (runtime : Runtime ι) (task : DeliveryTask) : Option (TimeValue ×ₗ ι) :=
  if task.id = "" ∨ '|' ∈ task.id.toList then none
  else some (orderKey runtime (wholeSecond task.createdAt) task.id)

theorem nextKey_eq_some {task : DeliveryTask} {k : TimeValue ×ₗ ι} :
    nextKey runtime task = some k ↔
      ∃ c, readCursor runtime (some (encodeCursor (mapRecord task))) = .ok (some c) ∧
        k = cursorKey runtime c := by
  rw [readCursor_encodeCursor, nextKey]
  by_cases hbad : task.id = "" ∨ '|' ∈ task.id.toList
  · have herror : decodeCursor runtime (encodeCursor (mapRecord task)) =
        .error (.badRequest "Invalid cursor") := decodeCursor_encodeCursor_error hbad
    rw [if_pos hbad, herror]
    simp
  · obtain ⟨hid, hbar⟩ := not_or.mp hbad
    have hok : decodeCursor runtime (encodeCursor (mapRecord task)) =
        .ok ⟨wholeSecond task.createdAt, task.id⟩ := decodeCursor_encodeCursor hid hbar
    rw [if_neg hbad, hok]
    constructor
    · intro h
      exact ⟨_, rfl, (Option.some.inj h).symm⟩
    · rintro ⟨c, hc, rfl⟩
      obtain rfl := Option.some.inj (Except.ok.inj hc)
      rfl

theorem nodup_taskKey (tasks : DeliveryTasks) (p : DeliveryTask → Bool) :
    ((tasks.rows.filter p).map (taskKey runtime)).Nodup := by
  have hids : ((tasks.rows.filter p).map DeliveryTask.id).Nodup :=
    tasks.nodup.sublist (List.filter_sublist.map _)
  refine List.Nodup.of_map (fun key => (ofLex key).2) ?_
  rw [List.map_map]
  have hcollate : ((tasks.rows.filter p).map DeliveryTask.id).map runtime.collate =
      (tasks.rows.filter p).map ((fun key => (ofLex key).2) ∘ taskKey runtime) := by
    rw [List.map_map]
    rfl
  rw [← hcollate]
  exact hids.map runtime.collate.injective

end Cursors

section Pages

variable {ι : Type*} [LinearOrder ι] {runtime : Runtime ι} {tasks : DeliveryTasks}
  {query : ListDeliveryTasksQueryDto}

theorem pageLimit_pos (query : ListDeliveryTasksQueryDto) : 0 < query.pageLimit := by
  rw [ListDeliveryTasksQueryDto.pageLimit, MAX_LIMIT]
  omega

theorem taskKey_lt_orderKey {task : DeliveryTask} {createdAt : TimeValue} {id : Id} :
    taskKey runtime task < orderKey runtime createdAt id ↔ task.createdAt < createdAt ∨
      task.createdAt = createdAt ∧ runtime.collate task.id < runtime.collate id :=
  Prod.Lex.toLex_lt_toLex

theorem pairwise_matching (tasks : DeliveryTasks) (filter : TaskFilter) :
    (matching runtime tasks filter).Pairwise fun a b => taskKey runtime b < taskKey runtime a :=
  Keyset.pairwise_sorted (nodup_taskKey tasks _)

theorem filter_beforeCursor (rows : List DeliveryTask) (cursor : Option CursorInfo) :
    rows.filter (beforeCursor runtime cursor) =
      Keyset.below (taskKey runtime) rows (cursor.map (cursorKey runtime)) := by
  cases cursor with
  | none => exact List.filter_true rows
  | some cursor =>
    refine List.filter_congr fun task _ => ?_
    simp only [beforeCursor, cursorKey, taskKey_lt_orderKey]

theorem findTasks_eq (filter : TaskFilter) (take : ℕ) (cursor : Option CursorInfo) :
    findTasks runtime tasks filter take cursor =
      ((Keyset.below (taskKey runtime) (matching runtime tasks filter)
        (cursor.map (cursorKey runtime))).take take).map mapRecord := by
  have hbelow : Keyset.sorted (taskKey runtime) (tasks.rows.filter fun task =>
      filter.passes runtime task && beforeCursor runtime cursor task) =
      (matching runtime tasks filter).filter (beforeCursor runtime cursor) := by
    rw [matching, ← Keyset.sorted_filter (nodup_taskKey tasks _), List.filter_filter]
    simp only [Bool.and_comm]
  rw [findTasks, hbelow, filter_beforeCursor]

theorem nextKey_le (a : DeliveryTask) (k : TimeValue ×ₗ ι) (h : nextKey runtime a = some k) :
    k ≤ taskKey runtime a := by
  unfold nextKey at h
  split_ifs at h
  obtain rfl := Option.some.inj h
  exact Prod.Lex.toLex_mono ⟨wholeSecond_le a.createdAt, le_rfl⟩

theorem pageAt_eq (cursor : Option CursorInfo) :
    pageAt runtime tasks query cursor =
      ⟨(Keyset.pageItems (taskKey runtime) query.pageLimit
          (matching runtime tasks query.toTaskFilter) (cursor.map (cursorKey runtime))).map
          mapRecord,
        (Keyset.pageLast (taskKey runtime) query.pageLimit
          (matching runtime tasks query.toTaskFilter) (cursor.map (cursorKey runtime))).map
          fun task => encodeCursor (mapRecord task)⟩ := by
  rw [pageAt, findTasks_eq, ← Keyset.window]
  simp only [List.length_map, Keyset.pageLast]
  by_cases hmore : query.pageLimit < (Keyset.window (taskKey runtime) query.pageLimit
      (matching runtime tasks query.toTaskFilter) (cursor.map (cursorKey runtime))).length
  · simp only [if_pos hmore, ← List.map_take, List.getLast?_map, Option.map_map,
      Function.comp_def]
    rfl
  · have hitems : Keyset.pageItems (taskKey runtime) query.pageLimit
        (matching runtime tasks query.toTaskFilter) (cursor.map (cursorKey runtime)) =
        Keyset.window (taskKey runtime) query.pageLimit
          (matching runtime tasks query.toTaskFilter) (cursor.map (cursorKey runtime)) :=
      List.take_of_length_le (Nat.le_of_not_lt hmore)
    simp only [if_neg hmore, hitems, Option.map_none]

end Pages

section Walks

variable {ι : Type*} [LinearOrder ι] {runtime : Runtime ι} {tasks : DeliveryTasks}
  {query : ListDeliveryTasksQueryDto}

theorem list_of_readCursor {cursor : Option String} {c : Option CursorInfo}
    (h : readCursor runtime cursor = .ok c) :
    list runtime tasks { query with cursor := cursor } = .ok (pageAt runtime tasks query c) := by
  rw [list, h]
  rfl

theorem exists_readCursor {cursor : Option String} {page : DeliveryTasksPage}
    (h : list runtime tasks { query with cursor := cursor } = .ok page) :
    ∃ c, readCursor runtime cursor = .ok c ∧ page = pageAt runtime tasks query c := by
  obtain ⟨c, hc, hpage⟩ := Outcome.bind_eq_ok.mp h
  exact ⟨c, hc, (Except.ok.inj hpage).symm⟩

theorem Walk.exists_readCursor {cursor : Option String} {seen : List DeliveryTask}
    (h : Walk runtime tasks query cursor seen) : ∃ c, readCursor runtime cursor = .ok c := by
  cases h with
  | last h => exact (Delivery.exists_readCursor h).imp fun _ hc => hc.1
  | more h _ => exact (Delivery.exists_readCursor h).imp fun _ hc => hc.1

theorem Walk.unique {cursor : Option String} {seen seen' : List DeliveryTask}
    (h : Walk runtime tasks query cursor seen) (h' : Walk runtime tasks query cursor seen') :
    seen = seen' := by
  induction h generalizing seen' with
  | last h =>
    cases h' with
    | last h' => exact congrArg DeliveryTasksPage.items (Except.ok.inj (h.symm.trans h'))
    | more h' _ =>
      have hpage := Except.ok.inj (h.symm.trans h')
      cases congrArg DeliveryTasksPage.nextCursor hpage
  | more h _ ih =>
    cases h' with
    | last h' =>
      have hpage := Except.ok.inj (h.symm.trans h')
      cases congrArg DeliveryTasksPage.nextCursor hpage
    | more h' hrest' =>
      obtain ⟨rfl, hnext⟩ := DeliveryTasksPage.mk.inj (Except.ok.inj (h.symm.trans h'))
      obtain rfl := Option.some.inj hnext
      rw [ih hrest']

theorem Walk.visits {cursor : Option String} {seen : List DeliveryTask}
    (h : Walk runtime tasks query cursor seen) :
    ∀ c, readCursor runtime cursor = .ok c → ∃ rows, seen = rows.map mapRecord ∧
      Keyset.Visits (taskKey runtime) query.pageLimit (matching runtime tasks query.toTaskFilter)
        (nextKey runtime) (c.map (cursorKey runtime)) rows := by
  induction h with
  | last h =>
    intro c hc
    rw [list_of_readCursor hc, pageAt_eq] at h
    obtain ⟨hitems, hlast⟩ := DeliveryTasksPage.mk.inj (Except.ok.inj h)
    exact ⟨_, hitems.symm, .last (Option.map_eq_none_iff.mp hlast)⟩
  | more h hrest ih =>
    intro c hc
    rw [list_of_readCursor hc, pageAt_eq] at h
    obtain ⟨hitems, hnext⟩ := DeliveryTasksPage.mk.inj (Except.ok.inj h)
    obtain ⟨last, hlast, rfl⟩ := Option.map_eq_some_iff.mp hnext
    obtain ⟨c', hc'⟩ := hrest.exists_readCursor
    obtain ⟨rows, rfl, hrows⟩ := ih c' hc'
    cases c' with
    | none => exact absurd hc' readCursor_next_ne_none
    | some c' =>
      refine ⟨_, ?_, .more hlast (nextKey_eq_some.mpr ⟨c', hc', rfl⟩) hrows⟩
      rw [List.map_append, hitems]

theorem walk_of_visits {k : Option (TimeValue ×ₗ ι)} {rows : List DeliveryTask}
    (h : Keyset.Visits (taskKey runtime) query.pageLimit
      (matching runtime tasks query.toTaskFilter) (nextKey runtime) k rows) :
    ∀ cursor c, readCursor runtime cursor = .ok c → k = c.map (cursorKey runtime) →
      Walk runtime tasks query cursor (rows.map mapRecord) := by
  induction h with
  | last h =>
    rintro cursor c hc rfl
    refine .last ?_
    rw [list_of_readCursor hc, pageAt_eq, h]
    rfl
  | more h hk hrest ih =>
    rintro cursor c hc rfl
    obtain ⟨c', hc', rfl⟩ := nextKey_eq_some.mp hk
    rw [List.map_append]
    refine .more ?_ (ih _ (some c') hc' rfl)
    rw [list_of_readCursor hc, pageAt_eq, h]
    rfl

theorem matching_mem {filter : TaskFilter} : ∀ a ∈ matching runtime tasks filter, a ∈ tasks := by
  intro a ha
  exact (List.mem_filter.mp (Keyset.mem_sorted.mp ha)).1

theorem walk_matching_iff :
    Walk runtime tasks query none ((matching runtime tasks query.toTaskFilter).map mapRecord) ↔
      Keyset.Visits (taskKey runtime) query.pageLimit
        (matching runtime tasks query.toTaskFilter) (nextKey runtime) none
        (matching runtime tasks query.toTaskFilter) := by
  constructor
  · intro h
    obtain ⟨rows, hrows, hvisits⟩ := h.visits none rfl
    have hids := congrArg (List.map DeliveryTask.id) hrows
    simp only [List.map_map] at hids
    have heq : matching runtime tasks query.toTaskFilter = rows :=
      Table.eq_of_map_key_eq matching_mem (fun a ha => matching_mem a (hvisits.mem a ha)) hids
    rwa [← heq] at hvisits
  · intro h
    exact walk_of_visits h none none rfl rfl

theorem boundariesReadable_iff : BoundariesReadable runtime tasks query ↔
    Keyset.Seamless (taskKey runtime) query.pageLimit
      (matching runtime tasks query.toTaskFilter) (nextKey runtime) := by
  have hboundary : ∀ a b, (a.id ≠ "" ∧ '|' ∉ a.id.toList ∧
      (b.createdAt < wholeSecond a.createdAt ∨
        b.createdAt = wholeSecond a.createdAt ∧ runtime.collate b.id < runtime.collate a.id)) ↔
      ∃ k, nextKey runtime a = some k ∧ taskKey runtime b < k := by
    intro a b
    rw [← taskKey_lt_orderKey, nextKey]
    by_cases hbad : a.id = "" ∨ '|' ∈ a.id.toList
    · rw [if_pos hbad]
      refine iff_of_false ?_ ?_
      · rintro ⟨hid, hbar, -⟩
        exact hbad.elim hid hbar
      · rintro ⟨k, hk, -⟩
        cases hk
    · obtain ⟨hid, hbar⟩ := not_or.mp hbad
      rw [if_neg hbad]
      constructor
      · rintro ⟨-, -, hlt⟩
        exact ⟨_, rfl, hlt⟩
      · rintro ⟨k, hk, hlt⟩
        obtain rfl := Option.some.inj hk
        exact ⟨hid, hbar, hlt⟩
  simp only [BoundariesReadable, Keyset.Seamless, hboundary]

/-- The pages hold every matching task once, in order, exactly when every boundary lies
between two tasks that the cursor can tell apart. -/
theorem pages_complete_iff (runtime : Runtime ι) (tasks : DeliveryTasks)
    (query : ListDeliveryTasksQueryDto) :
    Walk runtime tasks query none ((matching runtime tasks query.toTaskFilter).map mapRecord) ↔
      BoundariesReadable runtime tasks query := by
  rw [walk_matching_iff, boundariesReadable_iff]
  exact Keyset.visits_iff (pageLimit_pos query) nextKey_le (pairwise_matching tasks _)

end Walks

section Scene

/-- A database that compares text by its characters. -/
def plainRuntime : Runtime String where
  collate := .refl String
  containsInsensitive := fun text needle =>
    text.toLower.toList.tails.any needle.toLower.toList.isPrefixOf
  replaceMalformed := fun _ => "\uFFFD"
  parseOther := fun _ => none

def pushTask (id : Id) (createdAt : TimeValue) : DeliveryTask where
  id := id
  status := .PENDING
  queueName := "push-deliveries"
  jobName := "notifications.push"
  orgId := some "org"
  userId := none
  referenceType := none
  referenceId := none
  payload := .pushNotification ⟨"org", ["user"], "Title", none, none⟩
  attemptCount := 0
  maxAttempts := 5
  queuedAt := createdAt
  lastAttemptAt := none
  processingStartedAt := none
  completedAt := none
  lastError := none
  retriedAt := none
  replacedByTaskId := none
  createdAt := createdAt
  updatedAt := createdAt

def oneSecond : DeliveryTasks where
  rows := [pushTask "a" ⟨100, by decide⟩, pushTask "b" ⟨900, by decide⟩]
  nodup := by decide

/-- With one task a page, the cursor of the later task lies before both. -/
theorem earlier_task_skipped : ¬ Walk plainRuntime oneSecond { limit := some 1 } none
    ((matching plainRuntime oneSecond {}).map mapRecord) := by
  intro h
  have hseamless := (Keyset.visits_iff (pageLimit_pos _) nextKey_le (pairwise_matching _ _)).mp
    (walk_matching_iff.mp h)
  have hreadable := boundariesReadable_iff.mpr hseamless
  obtain ⟨-, -, hlt⟩ := hreadable [] (pushTask "b" ⟨900, by decide⟩)
    (pushTask "a" ⟨100, by decide⟩) [] (by decide +kernel) (by decide)
  exact absurd hlt (by decide +kernel)

end Scene

end Towerdesk.Delivery
