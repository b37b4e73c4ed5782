import Towerdesk.Notifications.PushReceipts
import Towerdesk.Lib.Keyset
import Towerdesk.Lib.Transaction
import Mathlib.Algebra.BigOperators.Group.Finset.Basic

/-!
# Which receipts are looked up

A poll takes pending receipts that have been looked up before those that have not. A
receipt is looked up within a number of polls exactly when the receipts that stay
unanswered leave room enough for it and it has a ticket to ask for.
-/

namespace Towerdesk.Notifications

open PushDeliveryReceiptsRepo
open Transaction (Ends final ends_bind ends_bind_kept ends_pure)

def isAsked (tickets : List String) (r : PushDeliveryReceipt) : Bool :=
  r.providerTicketId.any (· ∈ tickets)

/-- Ready, and never looked up. -/
def isFresh (readyAt : Date) (r : PushDeliveryReceipt) : Bool :=
  isPending readyAt r ∧ r.checkedAt = none

def freshRows (readyAt : Date) (t : ReceiptTable) : List PushDeliveryReceipt :=
  t.table.rows.filter (isFresh readyAt)

/-- How many ready receipts have been looked up and are still pending. -/
def unanswered (readyAt : Date) (t : ReceiptTable) : ℕ :=
  (t.table.rows.filter fun r => isPending readyAt r ∧ r.checkedAt ≠ none).length

section Marks

variable {tickets tickets' : List String} {t t' t'' : ReceiptTable} {r r' : PushDeliveryReceipt}

theorem isAsked_eq_true : isAsked tickets r = true ↔
    ∃ ticket ∈ tickets, r.providerTicketId = some ticket := by
  simp only [isAsked, Option.any_eq_true, decide_eq_true_eq]
  exact ⟨fun ⟨s, hr, hs⟩ => ⟨s, hs, hr⟩, fun ⟨s, hs, hr⟩ => ⟨s, hr, hs⟩⟩

theorem isAsked_congr (h : r.origin = r'.origin) : isAsked tickets r = isAsked tickets r' := by
  have hticket : r.providerTicketId = r'.providerTicketId := congrArg (·.2.2.1) h
  rw [isAsked, isAsked, hticket]

/-- The receipts of these tickets are stamped and the others are as before. -/
def Marks (tickets : List String) (t t' : ReceiptTable) : Prop :=
  ∃ f : PushDeliveryReceipt → PushDeliveryReceipt, t'.table.rows = t.table.rows.map f ∧
    ∀ r, (f r).origin = r.origin ∧ (isAsked tickets r = false → f r = r) ∧
      (isAsked tickets r = true → (f r).checkedAt ≠ none)

theorem marks_nil : Marks [] t t := by
  refine ⟨id, (List.map_id _).symm, fun r => ⟨rfl, fun _ => rfl, fun h => ?_⟩⟩
  obtain ⟨_, hticket, -⟩ := isAsked_eq_true.mp h
  cases hticket

theorem Marks.trans (h : Marks tickets t t') (h' : Marks tickets' t' t'') :
    Marks (tickets ++ tickets') t t'' := by
  obtain ⟨f, hf, hrow⟩ := h
  obtain ⟨f', hf', hrow'⟩ := h'
  have hasked (r : PushDeliveryReceipt) :
      isAsked (tickets ++ tickets') r = (isAsked tickets r || isAsked tickets' r) := by
    cases hr : r.providerTicketId <;> simp [isAsked, hr]
  refine ⟨f' ∘ f, by rw [hf', hf, List.map_map], fun r => ?_⟩
  obtain ⟨horigin, hsame, hstamp⟩ := hrow r
  obtain ⟨horigin', hsame', hstamp'⟩ := hrow' (f r)
  rw [isAsked_congr horigin] at hsame' hstamp'
  simp only [Function.comp_apply, hasked, Bool.or_eq_false_iff, Bool.or_eq_true]
  refine ⟨horigin'.trans horigin, fun h => by rw [hsame' h.2, hsame h.1], fun h => ?_⟩
  cases hlast : isAsked tickets' r with
  | true => exact hstamp' hlast
  | false =>
    rw [hsame' hlast]
    exact hstamp (h.resolve_right (by simp [hlast]))

theorem Marks.congr (h : Marks tickets t t') (hiff : ∀ s, s ∈ tickets ↔ s ∈ tickets') :
    Marks tickets' t t' := by
  have hasked : isAsked tickets = isAsked tickets' := by
    funext r
    simp only [isAsked, hiff]
  rwa [Marks, ← hasked]

theorem marks_updateMany {u : ReceiptUpdate} (hstamp : ∀ r, (u.apply r).checkedAt ≠ none) :
    Marks tickets t (t.updateMany (isAsked tickets) u) := by
  refine ⟨fun r => if isAsked tickets r then u.apply r else r, rfl, fun r => ?_⟩
  beta_reduce
  by_cases hr : isAsked tickets r = true
  · rw [if_pos hr]
    exact ⟨u.origin_apply r, fun h => absurd hr (by simp [h]), fun _ => hstamp r⟩
  · rw [if_neg hr]
    exact ⟨rfl, fun _ => rfl, fun h => absurd h hr⟩

theorem marks_lookupAttempted {now : Date} :
    Marks tickets t (markLookupAttempted tickets now t) := by
  unfold markLookupAttempted
  split_ifs with h
  · rw [h]
    exact marks_nil
  · exact marks_updateMany fun r => nofun

theorem Marks.freshRows (h : Marks tickets t t') (readyAt : Date) :
    freshRows readyAt t' = (freshRows readyAt t).filter fun r => !isAsked tickets r := by
  obtain ⟨f, hf, hrow⟩ := h
  have hfresh (r : PushDeliveryReceipt) :
      isFresh readyAt (f r) = (!isAsked tickets r && isFresh readyAt r) := by
    obtain ⟨-, hsame, hstamp⟩ := hrow r
    cases hr : isAsked tickets r with
    | true => simp [isFresh, hstamp hr]
    | false => simp [hsame hr]
  simp only [Notifications.freshRows, hf, List.filter_map, List.filter_filter]
  have hkeep : (t.table.rows.filter (isFresh readyAt ∘ f)) =
      t.table.rows.filter fun r => !isAsked tickets r && isFresh readyAt r :=
    List.filter_congr fun r _ => hfresh r
  rw [hkeep]
  refine (List.map_congr_left fun r hr => ?_).trans (List.map_id _)
  have hkept := (List.mem_filter.mp hr).2
  exact (hrow r).2.1 (by simpa using (Bool.and_eq_true_iff.mp hkept).1)

end Marks

section Poll

variable {env : PollEnv} {w w' : World} {tickets : List String}

/-- The provider answers, and only for tickets it was asked for. -/
def Answers (env : PollEnv) : Prop :=
  ∀ ids, ∃ data, env.getReceipts ids = .answered data ∧ ∀ entry ∈ data, entry.1 ∈ ids

def Settles (tickets : List String) (w w' : World) : Prop :=
  w'.lookups = w.lookups ∧ ∃ ts ⊆ tickets, Marks ts w.receipts w'.receipts

theorem Settles.refl : Settles tickets w w := ⟨rfl, [], List.nil_subset _, marks_nil⟩

theorem Settles.trans {w'' : World} (h : Settles tickets w w') (h' : Settles tickets w' w'') :
    Settles tickets w w'' := by
  obtain ⟨hlookups, ts, hts, hmarks⟩ := h
  obtain ⟨hlookups', ts', hts', hmarks'⟩ := h'
  exact ⟨hlookups'.trans hlookups, ts ++ ts', List.append_subset.mpr ⟨hts, hts'⟩,
    hmarks.trans hmarks'⟩

theorem updateByTicket_settles {ticket : String} {u : ReceiptUpdate} (hticket : ticket ∈ tickets)
    (hstamp : ∀ r, (u.apply r).checkedAt ≠ none) :
    Ends (Settles tickets w) (fun _ => Settles tickets w) (updateByTicket ticket u w) := by
  unfold updateByTicket
  split
  · exact Settles.refl
  · refine ⟨rfl, [ticket], by simpa using hticket, ?_⟩
    have hasked : (fun r : PushDeliveryReceipt => decide (r.providerTicketId = some ticket)) =
        isAsked [ticket] := by
      funext r
      cases hr : r.providerTicketId <;> simp [isAsked, hr]
    rw [hasked]
    exact marks_updateMany hstamp

theorem settle_settles {entry : String × ExpoPushReceipt} (hentry : entry.1 ∈ tickets) :
    Ends (Settles tickets w) (fun _ => Settles tickets w) (settle env entry w) := by
  obtain ⟨ticket, ⟨status, message, details⟩⟩ := entry
  cases status with
  | ok =>
    exact ends_bind (updateByTicket_settles hentry fun _ => nofun) fun _ _ h => ends_pure h
  | error =>
    exact ends_bind (updateByTicket_settles hentry fun _ => nofun) fun _ _ h => ends_pure h

theorem settleAll_settles {data : List (String × ExpoPushReceipt)}
    (hdata : ∀ entry ∈ data, entry.1 ∈ tickets) :
    Ends (Settles tickets w) (fun _ => Settles tickets w) (settleAll env data w) := by
  induction data generalizing w with
  | nil => exact Settles.refl
  | cons entry entries ih =>
    refine ends_bind (settle_settles (hdata entry List.mem_cons_self)) fun _ w₁ h₁ => ?_
    have hrest := @ih w₁ fun e he => hdata e (List.mem_cons_of_mem entry he)
    refine ends_bind (hrest.imp (fun _ => h₁.trans) fun _ _ => h₁.trans) fun _ _ h => ?_
    exact ends_pure h

/-- What a poll that asks for these tickets does. -/
def Polls (tickets : List String) (w w' : World) : Prop :=
  w'.lookups.flatten = w.lookups.flatten ++ tickets ∧ Marks tickets w.receipts w'.receipts

/-- The world in which the answer comes to be read. -/
def requested (env : PollEnv) (tickets : List String) (w : World) : World where
  receipts := markLookupAttempted tickets env.now w.receipts
  devices := w.devices
  lookups := w.lookups ++ [tickets]

theorem polls_of_settles (h : Settles tickets (requested env tickets w) w') :
    Polls tickets w w' := by
  obtain ⟨hlookups, ts, hts, hmarks⟩ := h
  refine ⟨by simp [hlookups, requested], (marks_lookupAttempted.trans hmarks).congr fun s => ?_⟩
  rw [List.mem_append]
  exact ⟨fun h => h.elim id fun h => hts h, .inl⟩

theorem lookupChunk_polls (henv : Answers env) :
    Ends (Polls tickets w) (fun _ => Polls tickets w) (lookupChunk env tickets w) := by
  obtain ⟨data, hanswer, hasked⟩ := henv tickets
  unfold lookupChunk
  rw [hanswer]
  change Ends _ _ ((settleAll env data >>= _) (requested env tickets w))
  have hsettle := @settleAll_settles env (requested env tickets w) tickets data hasked
  refine ends_bind (hsettle.imp (fun _ => polls_of_settles) fun _ _ => polls_of_settles)
    fun invalid w₁ h => ?_
  exact ends_bind_kept h fun _ _ h => ends_pure h

theorem length_pendingTickets_le : (pendingTickets env w).length ≤ 1000 :=
  (List.length_filterMap_le _ _).trans (List.length_take_le _ _)

theorem poll_polls (henv : Answers env) :
    Polls (pendingTickets env w) w (final (pollPendingReceipts env w)) := by
  refine Ends.final ?_
  change Ends _ _ (lookupChunks env (chunk 1000 (pendingTickets env w)) w)
  by_cases hnone : pendingTickets env w = []
  · rw [hnone, chunk]
    exact ⟨(List.append_nil _).symm, marks_nil⟩
  · rw [chunk_of_length_le hnone length_pendingTickets_le]
    refine ends_bind (lookupChunk_polls henv) fun _ w₁ h => ?_
    exact ends_bind_kept (ends_pure h) fun _ _ h => ends_pure h

end Poll

section Page

variable {env : PollEnv} {readyAt : Date} {t : ReceiptTable} {w : World}

instance : IsTrans PushDeliveryReceipt fun a b => before a b = true where
  trans a b c hab hbc := by
    unfold before at *
    cases ha : a.checkedAt <;> cases hb : b.checkedAt <;> cases hc : c.checkedAt <;>
      simp_all only [decide_eq_true_eq, Bool.false_eq_true]
    · exact hab.trans hbc
    · obtain hab | ⟨rfl, hab⟩ := hab <;> obtain hbc | ⟨rfl, hbc⟩ := hbc
      · exact .inl (hab.trans hbc)
      · exact .inl hab
      · exact .inl hbc
      · exact .inr ⟨rfl, hab.trans hbc⟩

instance : Std.Total fun a b : PushDeliveryReceipt => before a b = true where
  total a b := by
    unfold before
    cases ha : a.checkedAt <;> cases hb : b.checkedAt <;> simp only [decide_eq_true_eq]
    · exact le_total _ _
    · exact .inr trivial
    · exact .inl trivial
    · next s t =>
      obtain hlt | heq | hgt := lt_trichotomy s t
      · exact .inl (.inl hlt)
      · exact (le_total a.createdAt b.createdAt).imp (fun h => .inr ⟨heq, h⟩)
          fun h => .inr ⟨heq.symm, h⟩
      · exact .inr (.inl hgt)

/-- Looked up before; never looked up and ready by `readyAt`; the rest. -/
def rank (readyAt : Date) (r : PushDeliveryReceipt) : ℕ :=
  if r.checkedAt ≠ none then 0 else if r.createdAt ≤ readyAt then 1 else 2

theorem rank_le_of_before {a b : PushDeliveryReceipt} (h : before a b = true) :
    rank readyAt a ≤ rank readyAt b := by
  unfold before at h
  unfold rank
  cases ha : a.checkedAt <;> cases hb : b.checkedAt <;>
    simp_all only [decide_eq_true_eq, Bool.false_eq_true]
  · simp only [ne_eq, not_true_eq_false, if_false]
    split_ifs with ha hb hb
    · exact le_rfl
    · exact Nat.le_succ 1
    · exact absurd (h.trans hb) ha
    · exact le_rfl
  · simp
  · simp

/-- The pending receipts in the order in which polls take them. -/
def queue (env : PollEnv) (t : ReceiptTable) : List PushDeliveryReceipt :=
  (env.scan.arrange (t.table.rows.filter (isPending env.readyAt))).insertionSort
    fun a b => before a b = true

theorem queue_perm : (queue env t).Perm (t.table.rows.filter (isPending env.readyAt)) :=
  (List.perm_insertionSort _ _).trans (env.scan.perm _)

theorem page_eq : listPendingExpoReceipts env t = (queue env t).take 1000 := rfl

theorem pairwise_queue :
    (queue env t).Pairwise fun a b => rank readyAt a ≤ rank readyAt b :=
  (List.pairwise_insertionSort _ _).imp rank_le_of_before

theorem isFresh_iff (h : readyAt ≤ env.readyAt) {r : PushDeliveryReceipt} :
    isFresh readyAt r = true ↔ isPending env.readyAt r = true ∧ rank readyAt r = 1 := by
  simp only [isFresh, isPending, rank, decide_eq_true_eq, Bool.decide_and, Bool.and_eq_true]
  split_ifs with hchecked hready
  · simp [hchecked]
  · push Not at hchecked
    simp only [hchecked, hready, hready.trans h]
  · simp [hready]

theorem length_fresh_page (h : readyAt ≤ env.readyAt) :
    ((listPendingExpoReceipts env t).filter (rank readyAt · = 1)).length =
      min (freshRows readyAt t).length (1000 - unanswered env.readyAt t) := by
  have hfresh : ((queue env t).filter (rank readyAt · = 1)).length =
      (freshRows readyAt t).length := by
    rw [(queue_perm.filter _).length_eq, List.filter_filter, freshRows]
    refine congrArg List.length (List.filter_congr fun r _ => ?_)
    rw [Bool.eq_iff_iff, isFresh_iff h, Bool.and_eq_true, decide_eq_true_eq, and_comm]
  have hunanswered : ((queue env t).filter (rank readyAt · < 1)).length =
      unanswered env.readyAt t := by
    rw [(queue_perm.filter _).length_eq, List.filter_filter, unanswered]
    refine congrArg List.length (List.filter_congr fun r _ => ?_)
    rw [Bool.eq_iff_iff, Bool.and_eq_true, decide_eq_true_eq, decide_eq_true_eq, and_comm]
    refine and_congr_right' ?_
    unfold rank
    split_ifs with hchecked <;> simp [hchecked]
  rw [page_eq, Keyset.length_filter_take pairwise_queue, hfresh, hunanswered]

theorem mem_pendingTickets {ticket : String} :
    ticket ∈ pendingTickets env w ↔ ∃ r ∈ listPendingExpoReceipts env w.receipts,
      r.providerTicketId = some ticket ∧ ticket ≠ "" := by
  simp only [pendingTickets, List.mem_filterMap, truthy_eq_some]

theorem mem_of_mem_page {r : PushDeliveryReceipt} (h : r ∈ listPendingExpoReceipts env t) :
    r ∈ t ∧ isPending env.readyAt r = true :=
  List.mem_filter.mp (queue_perm.mem_iff.mp (List.mem_of_mem_take (page_eq ▸ h)))

/-- Every receipt has a ticket that can be asked for. -/
def Ticketed (rs : List PushDeliveryReceipt) : Prop := ∀ r ∈ rs, r.providerTicketId ≠ some ""

theorem asked_perm (h : readyAt ≤ env.readyAt) (htickets : Ticketed (freshRows readyAt w.receipts)) :
    ((freshRows readyAt w.receipts).filter (isAsked (pendingTickets env w))).Perm
      ((listPendingExpoReceipts env w.receipts).filter (rank readyAt · = 1)) := by
  have hrows : w.receipts.table.rows.Nodup := w.receipts.table.nodup.of_map
  have hpage : (listPendingExpoReceipts env w.receipts).Nodup :=
    (queue_perm.nodup_iff.mpr (hrows.filter _)).sublist (List.take_sublist 1000 _)
  have hfreshRows : (freshRows readyAt w.receipts).Nodup := hrows.filter _
  refine (List.perm_ext_iff_of_nodup (hfreshRows.filter _) (hpage.filter _)).mpr fun r => ?_
  rw [List.mem_filter, List.mem_filter, isAsked_eq_true, decide_eq_true_eq]
  constructor
  · rintro ⟨hfresh, ticket, hticket, hr⟩
    obtain ⟨hmem, hready⟩ := List.mem_filter.mp hfresh
    obtain ⟨r', hr', hticket', -⟩ := mem_pendingTickets.mp hticket
    obtain rfl : r = r' := (receiptCheck_eq_none.mp w.receipts.valid).eq hmem
      (mem_of_mem_page hr').1 hr hticket'
    exact ⟨hr', ((isFresh_iff h).mp hready).2⟩
  · rintro ⟨hpage, hrank⟩
    obtain ⟨hmem, hpending⟩ := mem_of_mem_page hpage
    have hfresh : r ∈ freshRows readyAt w.receipts :=
      List.mem_filter.mpr ⟨hmem, (isFresh_iff h).mpr ⟨hpending, hrank⟩⟩
    have hticket : r.providerTicketId.isSome = true := by
      simp only [isPending, Bool.decide_and, Bool.and_eq_true, decide_eq_true_eq] at hpending
      exact hpending.2.2.1
    obtain ⟨ticket, hr⟩ := Option.isSome_iff_exists.mp hticket
    refine ⟨hfresh, ticket, mem_pendingTickets.mpr ⟨r, hpage, hr, fun hempty => ?_⟩, hr⟩
    exact htickets r hfresh (hempty ▸ hr)

theorem length_freshRows_poll (henv : Answers env) (h : readyAt ≤ env.readyAt)
    (htickets : Ticketed (freshRows readyAt w.receipts)) :
    (freshRows readyAt (final (pollPendingReceipts env w)).receipts).length =
      (freshRows readyAt w.receipts).length - (1000 - unanswered env.readyAt w.receipts) := by
  have hasked := (asked_perm h htickets).length_eq
  rw [length_fresh_page h] at hasked
  have hsplit := List.length_eq_length_filter_add (l := freshRows readyAt w.receipts)
    (isAsked (pendingTickets env w))
  rw [(poll_polls henv).2.freshRows]
  omega

end Page

section Runs

variable (e : ℕ → PollEnv) (w : World)

def polled : ℕ → World
  | 0 => w
  | k + 1 => final (pollPendingReceipts (e k) (polled k))

/-- The receipts a poll would choose from. -/
def readyCount (env : PollEnv) (t : ReceiptTable) : ℕ :=
  (t.table.rows.filter (isPending env.readyAt)).length

/-- `⌈n / 1000⌉` for the receipts that are ready at the first poll. -/
def pollsNeeded : ℕ := (readyCount (e 0) w.receipts + 999) / 1000

/-- Each receipt ready at the first poll has been part of a lookup, earlier or by then. -/
def AllLookedUp (k : ℕ) : Prop :=
  ∀ r ∈ w.receipts, isPending (e 0).readyAt r = true →
    r.checkedAt ≠ none ∨ ∃ ids ∈ (polled e w k).lookups, ∃ ticket ∈ ids,
      r.providerTicketId = some ticket

/-- The places that `k` polls have left for receipts that were never looked up. -/
def places (k : ℕ) : ℕ :=
  ∑ i ∈ Finset.range k, (1000 - unanswered (e i).readyAt (polled e w i).receipts)

variable {e w} {k : ℕ} (hstart : w.lookups = []) (henv : ∀ i, Answers (e i))
  (hready : ∀ i, (e 0).readyAt ≤ (e i).readyAt)

include hstart henv

theorem polled_marks (k : ℕ) :
    Marks (polled e w k).lookups.flatten w.receipts (polled e w k).receipts ∧
      "" ∉ (polled e w k).lookups.flatten := by
  induction k with
  | zero =>
    rw [polled, hstart]
    exact ⟨marks_nil, List.not_mem_nil⟩
  | succ k ih =>
    obtain ⟨hlookups, hmarks⟩ := poll_polls (w := polled e w k) (henv k)
    rw [polled, hlookups]
    refine ⟨ih.1.trans hmarks, fun hempty => ?_⟩
    obtain hbefore | hnow := List.mem_append.mp hempty
    · exact ih.2 hbefore
    · obtain ⟨r, -, -, hne⟩ := mem_pendingTickets.mp hnow
      exact hne rfl

theorem allLookedUp_iff : AllLookedUp e w k ↔
    freshRows (e 0).readyAt (polled e w k).receipts = [] := by
  rw [(polled_marks hstart henv k).1.freshRows, List.filter_eq_nil_iff]
  constructor
  · intro h r hr
    obtain ⟨hmem, hfresh⟩ := List.mem_filter.mp hr
    obtain ⟨hpending, hunchecked⟩ := of_decide_eq_true hfresh
    obtain ⟨ids, hids, ticket, hticket, hr⟩ :=
      (h r hmem hpending).resolve_left fun hchecked => hchecked hunchecked
    have hasked := isAsked_eq_true.mpr ⟨ticket, List.mem_flatten_of_mem hids hticket, hr⟩
    simp [hasked]
  · intro h r hmem hpending
    refine or_iff_not_imp_left.mpr fun hchecked => ?_
    have hfresh : r ∈ freshRows (e 0).readyAt w.receipts :=
      List.mem_filter.mpr ⟨hmem, decide_eq_true ⟨hpending, not_ne_iff.mp hchecked⟩⟩
    obtain ⟨ticket, hticket, hr⟩ := isAsked_eq_true.mp (by simpa using h r hfresh)
    obtain ⟨ids, hids, hticket⟩ := List.mem_flatten.mp hticket
    exact ⟨ids, hids, ticket, hticket, hr⟩

include hready

theorem length_freshRows_polled (htickets : Ticketed (freshRows (e 0).readyAt w.receipts)) (k : ℕ) :
    (freshRows (e 0).readyAt (polled e w k).receipts).length =
      (freshRows (e 0).readyAt w.receipts).length - places e w k := by
  induction k with
  | zero => rfl
  | succ k ih =>
    have hrest : Ticketed (freshRows (e 0).readyAt (polled e w k).receipts) := by
      rw [(polled_marks hstart henv k).1.freshRows]
      exact fun r hr => htickets r (List.mem_of_mem_filter hr)
    rw [polled, length_freshRows_poll (henv k) (hready k) hrest, ih, places, places,
      Finset.sum_range_succ, Nat.sub_sub]

theorem lookedUp_iff : AllLookedUp e w k ↔
    Ticketed (freshRows (e 0).readyAt w.receipts) ∧
      (freshRows (e 0).readyAt w.receipts).length ≤ places e w k := by
  constructor
  · intro h
    have hnone := (allLookedUp_iff hstart henv).mp h
    have htickets : Ticketed (freshRows (e 0).readyAt w.receipts) := by
      intro r hr hempty
      obtain ⟨hmarks, hnever⟩ := polled_marks hstart henv k
      rw [hmarks.freshRows, List.filter_eq_nil_iff] at hnone
      obtain ⟨ticket, hticket, hr⟩ := isAsked_eq_true.mp (by simpa using hnone r hr)
      obtain rfl : "" = ticket := Option.some.inj (hempty.symm.trans hr)
      exact hnever hticket
    refine ⟨htickets, ?_⟩
    have hlength := length_freshRows_polled hstart henv hready htickets k
    rw [hnone, List.length_nil] at hlength
    omega
  · rintro ⟨htickets, hplaces⟩
    refine (allLookedUp_iff hstart henv).mpr (List.length_eq_zero_iff.mp ?_)
    rw [length_freshRows_polled hstart henv hready htickets k]
    omega

end Runs

section Crowd

def waitingReceipt (i : ℕ) : PushDeliveryReceipt where
  id := String.ofList (List.replicate (i + 1) 'r')
  provider := .EXPO
  pushDeviceId := none
  providerTicketId := some (String.ofList (List.replicate (i + 1) 'r'))
  providerReceiptId := none
  status := .PENDING
  errorCode := none
  errorMessage := none
  details := none
  checkedAt := none
  createdAt := 0

theorem ticket_injective {i j : ℕ}
    (h : String.ofList (List.replicate (i + 1) 'r') = String.ofList (List.replicate (j + 1) 'r')) :
    i = j := by
  have hlength := congrArg List.length (String.ofList_injective h)
  simpa using hlength

def crowdTable (n : ℕ) : Table PushDeliveryReceipt.id where
  rows := (List.range n).map waitingReceipt
  nodup := by
    rw [List.map_map]
    exact List.nodup_range.map fun _ _ => ticket_injective

theorem crowdTable_valid (n : ℕ) : receiptCheck (crowdTable n) = none := by
  refine receiptCheck_eq_none.mpr fun a ha b hb _ hab => ?_
  obtain ⟨i, -, rfl⟩ := List.mem_map.mp ha
  obtain ⟨j, -, rfl⟩ := List.mem_map.mp hb
  rw [ticket_injective (Option.some.inj hab)]

/-- `n` receipts that wait for their first lookup. -/
def crowd (n : ℕ) : World where
  receipts := ⟨crowdTable n, crowdTable_valid n⟩
  devices := .empty _
  lookups := []

/-- A provider that answers every request and knows no ticket. -/
def silent (_ : ℕ) : PollEnv where
  now := 0
  lookupDelayMs := 0
  scan := ⟨id, .refl⟩
  getReceipts := fun _ => .answered []

theorem silent_answers (i : ℕ) : Answers (silent i) := fun _ => ⟨[], rfl, nofun⟩

theorem poll_silent (i : ℕ) (w : World) :
    ∃ tickets, (final (pollPendingReceipts (silent i) w)).receipts =
      markLookupAttempted tickets 0 w.receipts := by
  change ∃ tickets, (final (lookupChunks (silent i) (chunk 1000 (pendingTickets (silent i) w))
    w)).receipts = _
  by_cases hnone : pendingTickets (silent i) w = []
  · rw [hnone, chunk]
    exact ⟨[], rfl⟩
  · rw [chunk_of_length_le hnone length_pendingTickets_le]
    exact ⟨pendingTickets (silent i) w, rfl⟩

theorem readyCount_eq {env : PollEnv} {t : ReceiptTable} :
    readyCount env t = unanswered env.readyAt t + (freshRows env.readyAt t).length := by
  have hsplit := List.length_eq_length_filter_add
    (l := t.table.rows.filter (isPending env.readyAt)) fun r => decide (r.checkedAt ≠ none)
  simp only [List.filter_filter] at hsplit
  rw [readyCount, hsplit, unanswered, freshRows]
  congr 2
  · refine List.filter_congr fun r _ => ?_
    rw [Bool.and_comm, Bool.decide_and, Bool.decide_eq_true]
  · refine List.filter_congr fun r _ => ?_
    simp [isFresh, Bool.and_comm]

theorem readyCount_lookupAttempted {env : PollEnv} {t : ReceiptTable} {tickets : List String} :
    readyCount env (markLookupAttempted tickets env.now t) = readyCount env t := by
  unfold markLookupAttempted
  split_ifs
  · rfl
  · have hpending : (isPending env.readyAt ∘ fun r =>
        if isAsked tickets r then (lookupAttempted env.now).apply r else r) =
          isPending env.readyAt := by
      funext r
      rw [Function.comp_apply]
      split_ifs <;> rfl
    change ((t.table.rows.map fun r =>
      if isAsked tickets r then (lookupAttempted env.now).apply r else r).filter _).length = _
    rw [List.filter_map, List.length_map, hpending, readyCount]

theorem length_freshRows_crowd (n : ℕ) :
    (freshRows 0 (crowd n).receipts).length = n := by
  have hall : freshRows 0 (crowd n).receipts = (crowd n).receipts.table.rows := by
    refine List.filter_eq_self.mpr fun r hr => ?_
    obtain ⟨i, -, rfl⟩ := List.mem_map.mp hr
    rfl
  rw [hall]
  simp [crowd, crowdTable]

theorem readyCount_crowd (n : ℕ) : readyCount (silent 0) (crowd n).receipts = n := by
  have hall : (crowd n).receipts.table.rows.filter (isPending (silent 0).readyAt) =
      (crowd n).receipts.table.rows := by
    refine List.filter_eq_self.mpr fun r hr => ?_
    obtain ⟨i, -, rfl⟩ := List.mem_map.mp hr
    rfl
  rw [readyCount, hall]
  simp [crowd, crowdTable]

theorem readyAt_silent (i : ℕ) : (silent i).readyAt = 0 := rfl

/-- The first thousand receipts are asked for again, and the others are not. -/
theorem crowd_starves {n : ℕ} (hn : 1000 < n) : ¬ AllLookedUp silent (crowd n) 2 := by
  have hready : ∀ i, (silent 0).readyAt ≤ (silent i).readyAt := fun _ => le_rfl
  intro hall
  obtain ⟨htickets, hplaces⟩ := (lookedUp_iff rfl silent_answers hready).mp hall
  have hbefore := @readyCount_eq (silent 0) (crowd n).receipts
  have hafter := @readyCount_eq (silent 0) (polled silent (crowd n) 1).receipts
  have hfresh := length_freshRows_polled rfl silent_answers hready htickets 1
  have hkept : readyCount (silent 0) (polled silent (crowd n) 1).receipts = n := by
    obtain ⟨tickets, hmarked⟩ := poll_silent 0 (crowd n)
    rw [polled, polled, hmarked]
    exact readyCount_lookupAttempted.trans (readyCount_crowd n)
  have hunanswered : unanswered 0 (polled silent (crowd n) 0).receipts =
      unanswered 0 (crowd n).receipts := rfl
  simp only [places, Finset.sum_range_succ, Finset.sum_range_zero, readyAt_silent,
    readyCount_crowd, length_freshRows_crowd, hkept, hunanswered] at hplaces hfresh hbefore hafter
  omega

theorem last_receipt_starves :
    ¬ ∀ (e : ℕ → PollEnv) (w : World), w.lookups = [] → (∀ i, Answers (e i)) →
      (∀ i, (e 0).readyAt ≤ (e i).readyAt) → AllLookedUp e w (pollsNeeded e w) := by
  intro h
  have hpolls : pollsNeeded silent (crowd 1001) = 2 := by
    rw [pollsNeeded, readyCount_crowd]
  have hall := h silent (crowd 1001) rfl silent_answers fun _ => le_rfl
  rw [hpolls] at hall
  exact crowd_starves (by omega) hall

theorem receipts_looked_up_in_time_iff (e : ℕ → PollEnv) (w : World) (hstart : w.lookups = [])
    (henv : ∀ i, Answers (e i)) (hready : ∀ i, (e 0).readyAt ≤ (e i).readyAt) :
    AllLookedUp e w (pollsNeeded e w) ↔
      Ticketed (freshRows (e 0).readyAt w.receipts) ∧
        (freshRows (e 0).readyAt w.receipts).length ≤ places e w (pollsNeeded e w) :=
  lookedUp_iff hstart henv hready

theorem crowd_looked_up_in_time_iff : AllLookedUp silent (crowd 5) (pollsNeeded silent (crowd 5)) ↔
    Ticketed (freshRows (silent 0).readyAt (crowd 5).receipts) ∧
      (freshRows (silent 0).readyAt (crowd 5).receipts).length ≤
        places silent (crowd 5) (pollsNeeded silent (crowd 5)) :=
  receipts_looked_up_in_time_iff silent (crowd 5) rfl silent_answers fun _ => le_rfl

end Crowd

end Towerdesk.Notifications
