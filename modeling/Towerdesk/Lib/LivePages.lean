import Towerdesk.Lib.CursorPages
import Mathlib.Data.Finset.Card

/-!
# Reading a listing that changes

Between two pages the rows of a listing may come, go and be rewritten. A reader who follows
the cursors sees keys in strictly descending order, and sees every key once that stays in the
listing while it is read. The reading ends where only a finite stock of keys can turn up below
a cursor.
-/

namespace LivePages

open CursorPages (Listing)

variable {α ε κ : Type*}

/-- The pages that a reader is shown, each made from the state after the one before. -/
inductive Walk (listing : ℕ → Listing α ε) : ℕ → Option String → List (List α) → Prop
  | last {n : ℕ} {cursor : Option String} {items : List α}
      (h : listing n cursor = .ok (items, none)) : Walk listing n cursor [items]
  | more {n : ℕ} {cursor : Option String} {items : List α} {next : String} {pages : List (List α)}
      (h : listing n cursor = .ok (items, some next))
      (hrest : Walk listing (n + 1) (some next) pages) : Walk listing n cursor (items :: pages)

section Page

variable [LinearOrder κ] {key : α → κ} {limit : ℕ} {rows : List α} {c : Option κ} {a b : α}

theorem mem_of_mem_pageItems (h : a ∈ Keyset.pageItems key limit rows c) :
    a ∈ rows ∧ ∀ k, c = some k → key a < k := by
  rw [Keyset.pageItems_eq] at h
  have hbelow := List.mem_of_mem_take h
  refine ⟨?_, fun k hk => Keyset.mem_below hk hbelow⟩
  cases c with
  | none => exact hbelow
  | some k => exact (List.mem_filter.mp hbelow).1

theorem mem_below (ha : a ∈ rows) (hc : ∀ k, c = some k → key a < k) :
    a ∈ Keyset.below key rows c := by
  cases c with
  | none => exact ha
  | some k => exact List.mem_filter.mpr ⟨ha, decide_eq_true (hc k rfl)⟩

theorem mem_pageItems_of_last (hlimit : 0 < limit)
    (hlast : Keyset.pageLast key limit rows c = none) (ha : a ∈ Keyset.below key rows c) :
    a ∈ Keyset.pageItems key limit rows c := by
  by_cases hshort : (Keyset.below key rows c).length ≤ limit
  · rwa [Keyset.pageItems_eq, List.take_of_length_le hshort]
  · obtain ⟨pre, x, y, post, hsplit, hpre⟩ :=
      Keyset.exists_boundary hlimit (Nat.lt_of_not_le hshort)
    have hsome := Keyset.pageLast_of_split hsplit hpre
    rw [hlast] at hsome
    cases hsome

theorem mem_pageItems_or_lt (hlimit : 0 < limit)
    (hsorted : rows.Pairwise fun a b => key b < key a)
    (hlast : Keyset.pageLast key limit rows c = some b) (ha : a ∈ Keyset.below key rows c) :
    a ∈ Keyset.pageItems key limit rows c ∨ key a < key b := by
  have hlong : limit < (Keyset.below key rows c).length := by
    by_contra hshort
    rw [Keyset.pageLast_of_le (Nat.le_of_not_lt hshort)] at hlast
    cases hlast
  obtain ⟨pre, x, y, post, hsplit, hpre⟩ := Keyset.exists_boundary hlimit hlong
  obtain rfl := Option.some.inj ((Keyset.pageLast_of_split hsplit hpre).symm.trans hlast)
  have hitems : Keyset.pageItems key limit rows c = pre ++ [x] := by
    rw [Keyset.pageItems_eq, hsplit, List.append_cons, List.take_left' (by simpa using hpre)]
  have hpairwise : (Keyset.below key rows c).Pairwise fun a b => key b < key a :=
    Keyset.pairwise_below hsorted c
  rw [hsplit] at ha hpairwise
  rw [hitems]
  rw [List.append_cons] at ha
  obtain hbefore | hafter := List.mem_append.mp ha
  · exact .inl hbefore
  · exact .inr (List.rel_of_pairwise_cons (List.pairwise_append.mp hpairwise).2.1 hafter)

theorem pageLast_mem (hlast : Keyset.pageLast key limit rows c = some b) :
    b ∈ Keyset.pageItems key limit rows c := by
  unfold Keyset.pageLast at hlast
  split_ifs at hlast
  exact List.mem_of_getLast? hlast

end Page

section Pages

variable [LinearOrder κ] (key : α → κ) (limit : ℕ) (rowsAt : ℕ → List α)

/-- The pages by the keys they start below. -/
inductive Visits : ℕ → Option κ → List (List α) → Prop
  | last {n : ℕ} {c : Option κ} (h : Keyset.pageLast key limit (rowsAt n) c = none) :
      Visits n c [Keyset.pageItems key limit (rowsAt n) c]
  | more {n : ℕ} {c : Option κ} {a : α} {pages : List (List α)}
      (h : Keyset.pageLast key limit (rowsAt n) c = some a)
      (hrest : Visits (n + 1) (some (key a)) pages) :
      Visits n c (Keyset.pageItems key limit (rowsAt n) c :: pages)

/-- Every state is served in pages, and a cursor made in any of them is read in the others. -/
structure Serves (listing : ℕ → Listing α ε) (encode : α → String) : Prop where
  first : ∀ n, listing n none = .ok (CursorPages.page key limit (rowsAt n) id encode none)
  next : ∀ m n, ∀ a ∈ rowsAt m, listing n (some (encode a)) =
    .ok (CursorPages.page key limit (rowsAt n) id encode (some (key a)))

variable {key limit rowsAt} {listing : ℕ → Listing α ε} {encode : α → String} {n : ℕ}
  {c : Option κ} {pages : List (List α)}

theorem Visits.walk (hserves : Serves key limit rowsAt listing encode)
    (h : Visits key limit rowsAt n c pages) :
    ∀ cursor, listing n cursor = .ok (CursorPages.page key limit (rowsAt n) id encode c) →
      Walk listing n cursor pages := by
  induction h with
  | last hlast =>
    intro cursor hcursor
    refine .last ?_
    rw [hcursor, CursorPages.page, hlast, List.map_id]
    rfl
  | @more n c a pages hlast hrest ih =>
    intro cursor hcursor
    have hmem : a ∈ rowsAt n := (mem_of_mem_pageItems (pageLast_mem hlast)).1
    refine .more ?_ (ih _ (hserves.next n (n + 1) a hmem))
    rw [hcursor, CursorPages.page, hlast, List.map_id]
    rfl

theorem Walk.visits (hserves : Serves key limit rowsAt listing encode) {cursor : Option String}
    (h : Walk listing n cursor pages) :
    ∀ c, listing n cursor = .ok (CursorPages.page key limit (rowsAt n) id encode c) →
      Visits key limit rowsAt n c pages := by
  induction h with
  | last hpage =>
    intro c hcursor
    obtain ⟨hitems, hnone⟩ := Prod.mk.inj (Except.ok.inj (hpage.symm.trans hcursor))
    rw [hitems, List.map_id]
    exact .last (Option.map_eq_none_iff.mp hnone.symm)
  | @more n cursor items next pages hpage hrest ih =>
    intro c hcursor
    obtain ⟨hitems, hnext⟩ := Prod.mk.inj (Except.ok.inj (hpage.symm.trans hcursor))
    obtain ⟨a, hlast, rfl⟩ := Option.map_eq_some_iff.mp hnext.symm
    have hmem : a ∈ rowsAt n := (mem_of_mem_pageItems (pageLast_mem hlast)).1
    rw [hitems, List.map_id]
    exact .more hlast (ih _ (hserves.next n (n + 1) a hmem))

theorem Serves.walk_iff (hserves : Serves key limit rowsAt listing encode) :
    Walk listing n none pages ↔ Visits key limit rowsAt n none pages :=
  ⟨fun h => h.visits hserves none (hserves.first n), fun h => h.walk hserves none (hserves.first n)⟩

theorem Serves.constant (hserves : Serves key limit rowsAt listing encode) (n : ℕ) :
    CursorPages.Serves key limit (rowsAt n) (listing n) id encode :=
  ⟨hserves.first n, hserves.next n n⟩

theorem Visits.length_pos (h : Visits key limit rowsAt n c pages) : 0 < pages.length := by
  cases h <;> exact Nat.succ_pos _

theorem Visits.mem (h : Visits key limit rowsAt n c pages) :
    ∀ a ∈ pages.flatten, ∃ m, a ∈ rowsAt m := by
  induction h with
  | @last n c hlast =>
    intro a ha
    rw [List.flatten_singleton] at ha
    exact ⟨n, (mem_of_mem_pageItems ha).1⟩
  | @more n c b pages hlast hrest ih =>
    intro a ha
    rw [List.flatten_cons] at ha
    obtain hpage | hlater := List.mem_append.mp ha
    · exact ⟨n, (mem_of_mem_pageItems hpage).1⟩
    · exact ih a hlater

theorem Visits.lt (h : Visits key limit rowsAt n c pages) :
    ∀ k, c = some k → ∀ a ∈ pages.flatten, key a < k := by
  induction h with
  | last hlast =>
    intro k hk a ha
    rw [List.flatten_singleton] at ha
    exact (mem_of_mem_pageItems ha).2 k hk
  | more hlast hrest ih =>
    intro k hk a ha
    rw [List.flatten_cons] at ha
    obtain hpage | hlater := List.mem_append.mp ha
    · exact (mem_of_mem_pageItems hpage).2 k hk
    · exact (ih _ rfl a hlater).trans ((mem_of_mem_pageItems (pageLast_mem hlast)).2 k hk)

theorem Visits.pairwise (hsorted : ∀ m, (rowsAt m).Pairwise fun a b => key b < key a)
    (h : Visits key limit rowsAt n c pages) :
    pages.flatten.Pairwise fun a b => key b < key a := by
  induction h with
  | last hlast =>
    rw [List.flatten_singleton]
    exact Keyset.pairwise_pageItems (hsorted _) _
  | more hlast hrest ih =>
    rw [List.flatten_cons, List.pairwise_append]
    refine ⟨Keyset.pairwise_pageItems (hsorted _) _, ih, fun a ha b hb => ?_⟩
    exact (hrest.lt _ rfl b hb).trans_le (Keyset.pageLast_le (hsorted _) hlast ha)

/-- A key that is in every state that is read, and below the first cursor, is seen. -/
theorem Visits.complete (hlimit : 0 < limit)
    (hsorted : ∀ m, (rowsAt m).Pairwise fun a b => key b < key a) {k : κ}
    (h : Visits key limit rowsAt n c pages)
    (hstays : ∀ i < pages.length, ∃ a ∈ rowsAt (n + i), key a = k)
    (hbelow : ∀ k', c = some k' → k < k') : ∃ a ∈ pages.flatten, key a = k := by
  induction h with
  | @last n c hlast =>
    obtain ⟨a, ha, rfl⟩ := hstays 0 Nat.zero_lt_one
    refine ⟨a, ?_, rfl⟩
    rw [List.flatten_singleton]
    exact mem_pageItems_of_last hlimit hlast (mem_below ha hbelow)
  | @more n c b pages hlast hrest ih =>
    obtain ⟨a, ha, hak⟩ := hstays 0 (Nat.succ_pos _)
    have ha' : a ∈ Keyset.below key (rowsAt n) c := mem_below ha (hak ▸ hbelow)
    rw [List.flatten_cons]
    obtain hpage | hlt := mem_pageItems_or_lt hlimit (hsorted n) hlast ha'
    · exact ⟨a, List.mem_append_left _ hpage, hak⟩
    · have hlater : ∀ i < pages.length, ∃ a ∈ rowsAt (n + 1 + i), key a = k := by
        intro i hi
        have hstay := hstays (i + 1) (Nat.succ_lt_succ hi)
        rwa [Nat.add_comm i 1, ← Nat.add_assoc] at hstay
      obtain ⟨a', ha', hk'⟩ := ih hlater fun k' hk' => by
        rw [← Option.some.inj hk', ← hak]
        exact hlt
      exact ⟨a', List.mem_append_right _ ha', hk'⟩

theorem card_below_lt {stock : Finset κ} {k k' : κ} (hlt : k' < k) (hmem : k' ∈ stock) :
    (stock.filter (· < k')).card < (stock.filter (· < k)).card := by
  have hsubset : stock.filter (· < k') ⊆ stock.filter (· < k) := by
    intro a ha
    rw [Finset.mem_filter] at ha ⊢
    exact ⟨ha.1, ha.2.trans hlt⟩
  refine Finset.card_lt_card ((Finset.ssubset_iff_of_subset hsubset).mpr ⟨k', ?_, ?_⟩)
  · exact Finset.mem_filter.mpr ⟨hmem, hlt⟩
  · simp

/-- Every page takes its last key out of the stock. -/
theorem exists_visits_below (stock : Finset κ) (k : κ)
    (hstock : ∀ m, ∀ a ∈ rowsAt m, key a < k → key a ∈ stock) :
    ∃ pages, Visits key limit rowsAt n (some k) pages := by
  induction hcard : (stock.filter (· < k)).card using Nat.strong_induction_on generalizing n k with
  | _ size ih =>
    cases hlast : Keyset.pageLast key limit (rowsAt n) (some k) with
    | none => exact ⟨_, .last hlast⟩
    | some a =>
      obtain ⟨ha, hbelow⟩ := mem_of_mem_pageItems (pageLast_mem hlast)
      have hlt : key a < k := hbelow k rfl
      have hfewer : (stock.filter (· < key a)).card < size :=
        hcard ▸ card_below_lt hlt (hstock n a ha hlt)
      obtain ⟨pages, hpages⟩ := ih _ hfewer (n := n + 1) (key a)
        (fun m b hb hba => hstock m b hb (hba.trans hlt)) rfl
      exact ⟨_, .more hlast hpages⟩

/-- The first cursor is a key of the first state: only what is below one of those counts. -/
theorem exists_visits (stock : Finset κ)
    (hstock : ∀ m, ∀ a ∈ rowsAt m, ∀ b ∈ rowsAt n, key a < key b → key a ∈ stock) :
    ∃ pages, Visits key limit rowsAt n none pages := by
  cases hlast : Keyset.pageLast key limit (rowsAt n) none with
  | none => exact ⟨_, .last hlast⟩
  | some b =>
    have hb : b ∈ rowsAt n := (mem_of_mem_pageItems (pageLast_mem hlast)).1
    obtain ⟨pages, hpages⟩ : ∃ pages, Visits key limit rowsAt (n + 1) (some (key b)) pages :=
      exists_visits_below stock (key b) fun m a ha => hstock m a ha b hb
    exact ⟨_, .more hlast hpages⟩

end Pages

end LivePages
