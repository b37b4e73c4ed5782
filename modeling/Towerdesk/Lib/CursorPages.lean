import Towerdesk.Lib.Keyset

/-!
# Reading a listing by its cursors

A listing answers a cursor with a page and, when there is more, the cursor of the next page.
Where each cursor is read back as the key of the row it was made from, a reader who follows
the cursors to the end sees every row once, in order, and nothing else.
-/

namespace CursorPages

variable {α β κ ε : Type*}

abbrev Listing (β ε : Type*) := Option String → Except ε (List β × Option String)

/-- What a reader sees who follows the cursors from one until there is none. -/
inductive Walk (listing : Listing β ε) : Option String → List β → Prop
  | last {cursor : Option String} {items : List β} (h : listing cursor = .ok (items, none)) :
      Walk listing cursor items
  | more {cursor : Option String} {items rest : List β} {next : String}
      (h : listing cursor = .ok (items, some next)) (hrest : Walk listing (some next) rest) :
      Walk listing cursor (items ++ rest)

theorem Walk.unique {listing : Listing β ε} {cursor : Option String} {seen seen' : List β}
    (h : Walk listing cursor seen) (h' : Walk listing cursor seen') : seen = seen' := by
  induction h generalizing seen' with
  | last h =>
    cases h' with
    | last h' => exact congrArg Prod.fst (Except.ok.inj (h.symm.trans h'))
    | more h' _ => cases congrArg Prod.snd (Except.ok.inj (h.symm.trans h'))
  | more h _ ih =>
    cases h' with
    | last h' => cases congrArg Prod.snd (Except.ok.inj (h.symm.trans h'))
    | more h' hrest' =>
      obtain ⟨rfl, hnext⟩ := Prod.mk.inj (Except.ok.inj (h.symm.trans h'))
      obtain rfl := Option.some.inj hnext
      rw [ih hrest']

theorem not_walk_of_error {listing : Listing β ε} {cursor : Option String} {e : ε}
    (h : listing cursor = .error e) (seen : List β) : ¬ Walk listing cursor seen := by
  intro hwalk
  cases hwalk with
  | last h' => cases h.symm.trans h'
  | more h' _ => cases h.symm.trans h'

section Pages

variable [LinearOrder κ] (key : α → κ) (limit : ℕ) (rows : List α)

def page (view : α → β) (encode : α → String) (c : Option κ) : List β × Option String :=
  ((Keyset.pageItems key limit rows c).map view, (Keyset.pageLast key limit rows c).map encode)

theorem page_of_window (view : α → β) (encode : α → String) (c : Option κ) {items : List α}
    (hitems : items = Keyset.window key limit rows c) :
    ((if limit < items.length then items.take limit else items).map view,
      if limit < items.length then
        (if limit < items.length then items.take limit else items).getLast?.map encode
      else none) = page key limit rows view encode c := by
  subst hitems
  rw [page, Keyset.pageLast, Keyset.pageItems]
  split_ifs with hmore
  · rfl
  · rw [List.take_of_length_le (Nat.le_of_not_lt hmore)]
    rfl

theorem page_of_below (view : α → β) (encode : α → String) (c : Option κ) {items : List α}
    (hitems : items = Keyset.below key rows c) :
    ((if limit < items.length then items.take limit else items).map view,
      if limit < items.length then
        (if limit < items.length then items.take limit else items).getLast?.map encode
      else none) = page key limit rows view encode c := by
  subst hitems
  rw [← page_of_window key limit rows view encode c rfl, Keyset.window]
  have hlength : limit < ((Keyset.below key rows c).take (limit + 1)).length ↔
      limit < (Keyset.below key rows c).length := by
    rw [List.length_take]
    omega
  simp only [hlength]
  split_ifs with hmore
  · rw [List.take_take, Nat.min_eq_left (Nat.le_succ limit)]
  · rw [List.take_of_length_le (Nat.le_succ_of_le (Nat.le_of_not_lt hmore))]

/-- The listing is made of the pages of the rows, each cursor standing for its row's key. -/
structure Serves (listing : Listing β ε) (view : α → β) (encode : α → String) : Prop where
  first : listing none = .ok (page key limit rows view encode none)
  next : ∀ a ∈ rows, listing (some (encode a)) = .ok (page key limit rows view encode (some (key a)))

variable {key limit rows} {listing : Listing β ε} {view : α → β} {encode : α → String}

theorem mem_of_pageLast {c : Option κ} {a : α} (h : Keyset.pageLast key limit rows c = some a) :
    a ∈ rows := by
  unfold Keyset.pageLast at h
  split_ifs at h
  have hmem : a ∈ Keyset.pageItems key limit rows c := List.mem_of_getLast? h
  rw [Keyset.pageItems_eq] at hmem
  have hbelow := List.mem_of_mem_take hmem
  cases c with
  | none => exact hbelow
  | some k => exact (List.mem_filter.mp hbelow).1

/-- A listing whose cursors are read back as keys of their own. -/
structure ServesAs (key : α → κ) (limit : ℕ) (rows : List α) (cursorKey : α → κ)
    (listing : Listing β ε) (view : α → β) (encode : α → String) : Prop where
  first : listing none = .ok (page key limit rows view encode none)
  next : ∀ a ∈ rows, listing (some (encode a)) =
    .ok (page key limit rows view encode (some (cursorKey a)))

theorem Serves.servesAs (hserves : Serves key limit rows listing view encode) :
    ServesAs key limit rows key listing view encode :=
  ⟨hserves.first, hserves.next⟩

variable {cursorKey : α → κ}

theorem ServesAs.walk (hserves : ServesAs key limit rows cursorKey listing view encode)
    {c : Option κ} {seen : List α}
    (h : Keyset.Visits key limit rows (fun a => some (cursorKey a)) c seen) :
    ∀ cursor, listing cursor = .ok (page key limit rows view encode c) →
      Walk listing cursor (seen.map view) := by
  induction h with
  | last hlast =>
    intro cursor hcursor
    refine .last ?_
    rw [hcursor, page, hlast]
    rfl
  | @more c a k rest hlast hk hrest ih =>
    intro cursor hcursor
    obtain rfl := Option.some.inj hk
    rw [List.map_append]
    have hnext := ih _ (hserves.next a (mem_of_pageLast hlast))
    refine .more ?_ hnext
    rw [hcursor, page, hlast]
    rfl

theorem ServesAs.visits (hserves : ServesAs key limit rows cursorKey listing view encode)
    {cursor : Option String} {seen : List β} (h : Walk listing cursor seen) :
    ∀ c, listing cursor = .ok (page key limit rows view encode c) →
      ∃ visited, seen = visited.map view ∧
        Keyset.Visits key limit rows (fun a => some (cursorKey a)) c visited := by
  induction h with
  | last hpage =>
    intro c hcursor
    obtain ⟨hitems, hnone⟩ := Prod.mk.inj (Except.ok.inj (hpage.symm.trans hcursor))
    exact ⟨_, hitems, .last (Option.map_eq_none_iff.mp hnone.symm)⟩
  | more hpage hrest ih =>
    intro c hcursor
    obtain ⟨hitems, hnext⟩ := Prod.mk.inj (Except.ok.inj (hpage.symm.trans hcursor))
    obtain ⟨a, hlast, rfl⟩ := Option.map_eq_some_iff.mp hnext.symm
    obtain ⟨visited, rfl, hvisits⟩ := ih _ (hserves.next a (mem_of_pageLast hlast))
    refine ⟨Keyset.pageItems key limit rows c ++ visited, ?_, .more hlast rfl hvisits⟩
    rw [List.map_append, hitems]

theorem seamless_of_pairwise (hsorted : rows.Pairwise fun a b => key b < key a) :
    Keyset.Seamless key limit rows fun a => some (key a) := by
  rintro pre a b post rfl -
  have htail := (List.pairwise_append.mp hsorted).2.1
  exact ⟨key a, rfl, List.rel_of_pairwise_cons htail List.mem_cons_self⟩

/-- The reader sees the rows, whatever the page size. -/
theorem Serves.walk_iff (hserves : Serves key limit rows listing view encode) (hlimit : 0 < limit)
    (hsorted : rows.Pairwise fun a b => key b < key a) (seen : List β) :
    Walk listing none seen ↔ seen = rows.map view := by
  have hvisits : Keyset.Visits key limit rows (fun a => some (key a)) none rows :=
    (Keyset.visits_iff hlimit (fun a k hk => (Option.some.inj hk).ge) hsorted).mpr
      (seamless_of_pairwise hsorted)
  have hwalk : Walk listing none (rows.map view) :=
    hserves.servesAs.walk hvisits none hserves.first
  constructor
  · exact fun h => h.unique hwalk
  · rintro rfl
    exact hwalk

/-- A reader can follow the cursors to the end and sees every wanted item once. -/
def Lossless {γ : Type*} (listing : Listing β ε) (ident : β → γ) (wanted : List γ) : Prop :=
  ∃ seen, Walk listing none seen ∧ (seen.map ident).Perm wanted

theorem lossless_congr {γ : Type*} {ident : β → γ} {wanted wanted' : List γ}
    (h : wanted.Perm wanted') : Lossless listing ident wanted ↔ Lossless listing ident wanted' :=
  ⟨fun ⟨seen, hwalk, hseen⟩ => ⟨seen, hwalk, hseen.trans h⟩,
    fun ⟨seen, hwalk, hseen⟩ => ⟨seen, hwalk, hseen.trans h.symm⟩⟩

theorem ServesAs.lossless_iff {γ : Type*} {ident : β → γ} (hlimit : 0 < limit)
    (hserves : ServesAs key limit rows cursorKey listing view encode)
    (hle : ∀ a, cursorKey a ≤ key a) (hsorted : rows.Pairwise fun a b => key b < key a)
    (hident : (rows.map fun a => ident (view a)).Nodup) :
    Lossless listing ident (rows.map fun a => ident (view a)) ↔
      Keyset.Seamless key limit rows fun a => some (cursorKey a) := by
  have hle' : ∀ a k, some (cursorKey a) = some k → k ≤ key a :=
    fun a k hk => Option.some.inj hk ▸ hle a
  rw [← Keyset.visits_iff hlimit hle' hsorted]
  constructor
  · rintro ⟨seen, hwalk, hperm⟩
    obtain ⟨visited, rfl, hvisits⟩ := hserves.visits hwalk none hserves.first
    rw [List.map_map] at hperm
    have hpairwise := hvisits.pairwise hle' hsorted
    have hmem : ∀ a, a ∈ visited ↔ a ∈ rows := by
      refine fun a => ⟨hvisits.mem a, fun ha => ?_⟩
      obtain ⟨b, hb, hba⟩ := List.mem_map.mp (hperm.mem_iff.mpr (List.mem_map_of_mem ha))
      exact List.inj_on_of_nodup_map hident (hvisits.mem b hb) ha hba ▸ hb
    have hsame : visited.Perm rows :=
      (List.perm_ext_iff_of_nodup (hpairwise.imp fun h => fun hab => h.ne' (congrArg key hab))
        hident.of_map).mpr hmem
    obtain rfl : visited = rows := hsame.eq_of_pairwise
      (fun a b _ _ hab hba => absurd hab hba.not_gt) hpairwise hsorted
    exact hvisits
  · intro hvisits
    refine ⟨_, hserves.walk hvisits none hserves.first, ?_⟩
    rw [List.map_map]
    rfl

end Pages

end CursorPages
