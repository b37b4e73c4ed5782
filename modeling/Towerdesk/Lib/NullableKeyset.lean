import Towerdesk.Lib.SortOrder
import Mathlib.Data.Prod.Lex
import Mathlib.Order.WithBot

/-!
# Paging by a column that may be absent

The database lists an absent value as larger than any other, and no comparison with a value
holds of it. A cursor writes a filler, at or below all values, in its place. What a reader is
shown page by page is then whole unless absent values meet a page boundary: they are listed
last and never found again, or listed first and the filler falls behind the rest of them.
-/

namespace NullableKeyset

open CursorPages (Listing Walk)

variable {α β γ κ ι ε : Type*}

section Keys

variable (value : α → Option κ) (place : α → ι) (fill : κ)

/-- What the rows are listed by. -/
def rowKey (a : α) : WithTop κ ×ₗ ι := toLex ((value a).elim ⊤ (fun v => (v : WithTop κ)), place a)

/-- What the cursor of a row stands for. -/
def cursorOf (a : α) : κ × ι := ((value a).getD fill, place a)

def keyOf (c : κ × ι) : WithTop κ ×ₗ ι := toLex ((c.1 : WithTop κ), c.2)

variable {value place fill} {a : α} {v : κ}

theorem rowKey_of_some (h : value a = some v) : rowKey value place a = keyOf (v, place a) := by
  rw [rowKey, h]
  rfl

theorem rowKey_of_none (h : value a = none) : rowKey value place a = toLex (⊤, place a) := by
  rw [rowKey, h]
  rfl

theorem keyOf_cursorOf (h : value a = some v) :
    keyOf (cursorOf value place fill a) = rowKey value place a := by
  rw [rowKey_of_some h, cursorOf, h]
  rfl

end Keys

section Order

variable [LinearOrder κ] [LinearOrder ι] (value : α → Option κ) (place : α → ι) (fill : κ)

/-- The condition of a query that starts behind a cursor. -/
def passes (order : SortOrder) (c : κ × ι) (a : α) : Bool :=
  (value a).any fun v => order.Behind v c.1 ∨ v = c.1 ∧ order.Behind (place a) c.2

def after (order : SortOrder) (c : Option (κ × ι)) (rows : List α) : List α :=
  match c with
  | none => rows
  | some c => rows.filter (passes value place order c)

variable {value place fill} {order : SortOrder} {a b : α} {v : κ} {c : κ × ι}

theorem keyOf_lt {d : κ × ι} : keyOf c < keyOf d ↔ c.1 < d.1 ∨ c.1 = d.1 ∧ c.2 < d.2 := by
  rw [keyOf, keyOf, Prod.Lex.toLex_lt_toLex, WithTop.coe_lt_coe, WithTop.coe_inj]

theorem passes_iff : passes value place order c a = true ↔
    ∃ v, value a = some v ∧ order.Behind (keyOf (v, place a)) (keyOf c) := by
  rw [passes, Option.any_eq_true]
  refine exists_congr fun v => and_congr_right fun _ => ?_
  rw [decide_eq_true_eq]
  cases order with
  | asc =>
    refine Iff.trans ?_ (keyOf_lt (c := c) (d := (v, place a))).symm
    exact or_congr_right (and_congr_left fun _ => eq_comm)
  | desc => exact (keyOf_lt (c := (v, place a)) (d := c)).symm

theorem passes_desc_iff :
    passes value place .desc c a = true ↔ rowKey value place a < keyOf c := by
  rw [passes_iff]
  cases hvalue : value a with
  | none =>
    rw [rowKey_of_none hvalue, keyOf, Prod.Lex.toLex_lt_toLex]
    simp
  | some v =>
    rw [rowKey_of_some hvalue]
    exact ⟨fun ⟨w, hw, h⟩ => Option.some.inj hw ▸ h, fun h => ⟨v, rfl, h⟩⟩

theorem passes_of_some_iff (h : value a = some v) : passes value place order c a = true ↔
    order.key (rowKey value place a) < order.key (keyOf c) := by
  rw [passes_iff, SortOrder.key_lt, rowKey_of_some h, h]
  exact ⟨fun ⟨w, hw, hbehind⟩ => Option.some.inj hw ▸ hbehind, fun hbehind => ⟨v, rfl, hbehind⟩⟩

theorem keyOf_cursorOf_le : keyOf (cursorOf value place fill a) ≤ rowKey value place a := by
  cases hvalue : value a with
  | none =>
    rw [rowKey_of_none hvalue, cursorOf, hvalue]
    exact (Prod.Lex.toLex_lt_toLex.mpr (.inl (WithTop.coe_lt_top fill))).le
  | some v => exact (keyOf_cursorOf hvalue).le

theorem none_of_le (h : rowKey value place a ≤ rowKey value place b) (ha : value a = none) :
    value b = none := by
  cases hb : value b with
  | none => rfl
  | some v =>
    rw [rowKey_of_none ha, rowKey_of_some hb] at h
    have hlt : keyOf (v, place b) < toLex ((⊤ : WithTop κ), place a) :=
      Prod.Lex.toLex_lt_toLex.mpr (.inl (WithTop.coe_lt_top v))
    exact absurd hlt h.not_gt

end Order

section Descending

variable [LinearOrder κ] [LinearOrder ι] {value : α → Option κ} {place : α → ι} {fill : κ}
  {limit : ℕ} {rows : List α}

def absent (value : α → Option κ) (rows : List α) : List α := rows.filter fun a => (value a).isNone

/-- Absent values come first and fit on the first page, or fill it and the filler is ahead of
what follows. -/
def StartsWhole (value : α → Option κ) (place : α → ι) (fill : κ) (limit : ℕ) (rows : List α) :
    Prop :=
  (absent value rows).length < limit ∨ (absent value rows).length = limit ∧
    ∀ a ∈ rows, value a ≠ none → value a = some fill ∧
      ∀ b ∈ rows, value b = none → place a < place b

theorem around {pre post : List α} {a b x : α}
    (hsorted : (pre ++ a :: b :: post).Pairwise fun a b =>
      rowKey value place b < rowKey value place a)
    (hx : x ∈ pre ++ a :: b :: post) :
    rowKey value place a ≤ rowKey value place x ∨ rowKey value place x ≤ rowKey value place b := by
  obtain ⟨-, htail, hacross⟩ := List.pairwise_append.mp hsorted
  obtain hpre | hrest := List.mem_append.mp hx
  · exact .inl (hacross x hpre a List.mem_cons_self).le
  · obtain rfl | hrest := List.mem_cons.mp hrest
    · exact .inl le_rfl
    · obtain rfl | hpost := List.mem_cons.mp hrest
      · exact .inr le_rfl
      · exact .inr (List.rel_of_pairwise_cons (List.pairwise_cons.mp htail).2 hpost).le

theorem absent_split {pre post : List α} {a b : α}
    (hsorted : (pre ++ a :: b :: post).Pairwise fun a b =>
      rowKey value place b < rowKey value place a)
    (ha : value a = none) : (absent value (pre ++ a :: b :: post)).length =
      pre.length + 1 + (absent value (b :: post)).length := by
  have hpre : absent value pre = pre := by
    refine List.filter_eq_self.mpr fun x hx => ?_
    have hlt := (List.pairwise_append.mp hsorted).2.2 x hx a List.mem_cons_self
    rw [none_of_le hlt.le ha]
    rfl
  have hsplit : absent value (pre ++ a :: b :: post) =
      absent value pre ++ a :: absent value (b :: post) := by
    rw [absent, List.filter_append, List.filter_cons_of_pos (by rw [ha]; rfl)]
    rfl
  rw [hsplit, hpre, List.length_append, List.length_cons]
  omega

theorem behind_filler (hfill : ∀ a ∈ rows, ∀ v, value a = some v → fill ≤ v) {a b : α}
    (hb : b ∈ rows) (ha : value a = none)
    (hlt : rowKey value place b < keyOf (cursorOf value place fill a)) :
    value b = some fill ∧ place b < place a := by
  obtain ⟨w, hw, -⟩ := passes_iff.mp (passes_desc_iff.mpr hlt)
  rw [rowKey_of_some hw, keyOf_lt, cursorOf, ha, Option.getD_none] at hlt
  obtain hless | ⟨rfl, hplace⟩ := hlt
  · exact absurd hless (hfill b hb w hw).not_gt
  · exact ⟨hw, hplace⟩

theorem rowKey_lt_of_behind {a b : α} (ha : value a = none) (hb : value b = some fill)
    (hplace : place b < place a) : rowKey value place b < keyOf (cursorOf value place fill a) := by
  rw [rowKey_of_some hb, keyOf_lt, cursorOf, ha]
  exact .inr ⟨rfl, hplace⟩

/-- In descending order the cursors lose nothing exactly when the rows start whole. -/
theorem seamless_iff (hlimit : 0 < limit) (hlong : limit < rows.length)
    (hfill : ∀ a ∈ rows, ∀ v, value a = some v → fill ≤ v)
    (hsorted : rows.Pairwise fun a b => rowKey value place b < rowKey value place a) :
    Keyset.Seamless (rowKey value place) limit rows
        (fun a => some (keyOf (cursorOf value place fill a))) ↔
      StartsWhole value place fill limit rows := by
  constructor
  · intro hseamless
    obtain ⟨pre, a, b, post, rfl, hpre⟩ := Keyset.exists_boundary hlimit hlong
    cases hvalue : value a with
    | some v =>
      -- the first page ends in a value, so all absent ones are on it
      refine .inl ?_
      have hpost : absent value (a :: b :: post) = [] := by
        refine List.filter_eq_nil_iff.mpr fun x hx hnone => ?_
        have hle : rowKey value place x ≤ rowKey value place a := by
          obtain rfl | hx := List.mem_cons.mp hx
          · exact le_rfl
          · exact (List.rel_of_pairwise_cons (List.pairwise_append.mp hsorted).2.1 hx).le
        have habsent := none_of_le hle (Option.isNone_iff_eq_none.mp hnone)
        rw [hvalue] at habsent
        cases habsent
      have hlength : (absent value (pre ++ a :: b :: post)).length ≤ pre.length := by
        rw [absent, List.filter_append]
        change (_ ++ absent value (a :: b :: post)).length ≤ _
        rw [hpost, List.append_nil]
        exact List.length_filter_le _ _
      omega
    | none =>
      obtain ⟨k, hk, hlt⟩ := hseamless pre a b post rfl (hpre ▸ Nat.dvd_refl _)
      obtain rfl := Option.some.inj hk
      have hb : b ∈ pre ++ a :: b :: post := by simp
      obtain ⟨hbvalue, hbplace⟩ := behind_filler hfill hb hvalue hlt
      have hnamed : ∀ x, rowKey value place x ≤ rowKey value place b → value x ≠ none := by
        intro x hle hnone
        rw [none_of_le hle hnone] at hbvalue
        cases hbvalue
      have hpost : absent value (b :: post) = [] := by
        refine List.filter_eq_nil_iff.mpr fun x hx hnone => ?_
        refine hnamed x ?_ (Option.isNone_iff_eq_none.mp hnone)
        obtain rfl | hx := List.mem_cons.mp hx
        · exact le_rfl
        · have htail := (List.pairwise_cons.mp (List.pairwise_append.mp hsorted).2.1).2
          exact (List.rel_of_pairwise_cons htail hx).le
      refine .inr ⟨by rw [absent_split hsorted hvalue, hpost, List.length_nil]; omega, ?_⟩
      intro x hx hxvalue
      have hxb : rowKey value place x ≤ rowKey value place b :=
        (around hsorted hx).resolve_left fun hle => hxvalue (none_of_le hle hvalue)
      obtain ⟨hxfill, hxplace⟩ : value x = some fill ∧ place x < place a :=
        behind_filler hfill hx hvalue (hxb.trans_lt hlt)
      refine ⟨hxfill, fun y hy hynone => hxplace.trans_le ?_⟩
      have hay : rowKey value place a ≤ rowKey value place y :=
        (around hsorted hy).resolve_right fun hle => hnamed y hle hynone
      rw [rowKey_of_none hvalue, rowKey_of_none hynone, Prod.Lex.toLex_le_toLex] at hay
      exact (hay.resolve_left (lt_irrefl _)).2
  · rintro hwhole pre a b post rfl hdvd
    have hpage : limit ≤ pre.length + 1 := Nat.le_of_dvd (Nat.succ_pos _) hdvd
    refine ⟨_, rfl, ?_⟩
    cases hvalue : value a with
    | some v =>
      rw [keyOf_cursorOf hvalue]
      exact List.rel_of_pairwise_cons (List.pairwise_append.mp hsorted).2.1 List.mem_cons_self
    | none =>
      have hcount := absent_split hsorted hvalue
      obtain hfew | ⟨hfull, hnamed⟩ := hwhole
      · omega
      · have hpost : absent value (b :: post) = [] := List.length_eq_zero_iff.mp (by omega)
        have hbvalue : value b ≠ none := fun hnone =>
          List.filter_eq_nil_iff.mp hpost b List.mem_cons_self (by rw [hnone]; rfl)
        obtain ⟨hbfill, hbplace⟩ := hnamed b (by simp) hbvalue
        exact rowKey_lt_of_behind hvalue hbfill (hbplace a (by simp) hvalue)

end Descending

section Listings

variable [LinearOrder κ] [LinearOrder ι] (value : α → Option κ) (place : α → ι) (fill : κ)
  (order : SortOrder) (limit : ℕ) (rows : List α)

def window (c : Option (κ × ι)) : List α := (after value place order c rows).take (limit + 1)

/-- A page is cut from one row more than it has room for. -/
def page (view : α → β) (encode : α → String) (c : Option (κ × ι)) : List β × Option String :=
  let items := window value place order limit rows c
  let hasMore := limit < items.length
  let sliced := if hasMore then items.take limit else items
  (sliced.map view, if hasMore then sliced.getLast?.map encode else none)

/-- The listing is made of the pages, each cursor read back as what it was made of. -/
structure Serves (listing : Listing β ε) (view : α → β) (encode : α → String) : Prop where
  first : listing none = .ok (page value place order limit rows view encode none)
  next : ∀ a ∈ rows, listing (some (encode a)) =
    .ok (page value place order limit rows view encode (some (cursorOf value place fill a)))

/-- What makes the pages whole: there is one, or no value is absent, or the absent ones come
first and leave room. -/
def Whole : Prop :=
  rows.length ≤ limit ∨ (∀ a ∈ rows, value a ≠ none) ∨
    order = .desc ∧ StartsWhole value place fill limit rows

variable {value place fill order limit rows} {listing : Listing β ε} {view : α → β}
  {encode : α → String} {ident : β → γ}

theorem page_items (c : Option (κ × ι)) : (page value place order limit rows view encode c).1 =
    ((after value place order c rows).take limit).map view := by
  rw [page, window]
  dsimp only
  split_ifs with hmore
  · rw [List.take_take, Nat.min_eq_left (Nat.le_succ limit)]
  · rw [List.length_take] at hmore
    rw [List.take_of_length_le (by omega), List.take_of_length_le (by omega)]

theorem page_next {c : Option (κ × ι)} {next : String}
    (h : (page value place order limit rows view encode c).2 = some next) :
    ∃ a ∈ rows, next = encode a := by
  have hsubset : ∀ a ∈ after value place order c rows, a ∈ rows := by
    intro a ha
    cases c with
    | none => exact ha
    | some c => exact (List.mem_filter.mp ha).1
  unfold page at h
  dsimp only at h
  split_ifs at h
  obtain ⟨a, ha, rfl⟩ := Option.map_eq_some_iff.mp h
  exact ⟨a, hsubset a (List.mem_of_mem_take (List.mem_of_mem_take (List.mem_of_getLast? ha))), rfl⟩

/-- Where the condition of the query is the order of the keys, the pages are those of a keyset. -/
theorem Serves.servesAs (hserves : Serves value place fill order limit rows listing view encode)
    (horder : order = .desc ∨ ∀ a ∈ rows, value a ≠ none) :
    CursorPages.ServesAs (fun a => order.key (rowKey value place a)) limit rows
      (fun a => order.key (keyOf (cursorOf value place fill a))) listing view encode := by
  have hafter : ∀ c : Option (κ × ι), after value place order c rows =
      Keyset.below (fun a => order.key (rowKey value place a)) rows
        (c.map fun c => order.key (keyOf c)) := by
    intro c
    cases c with
    | none => rfl
    | some c =>
      refine List.filter_congr fun a ha => Bool.eq_iff_iff.mpr ?_
      refine Iff.trans ?_ decide_eq_true_iff.symm
      obtain rfl | hnamed := horder
      · exact passes_desc_iff
      · obtain ⟨v, hv⟩ := Option.ne_none_iff_exists'.mp (hnamed a ha)
        exact passes_of_some_iff hv
  have hpage : ∀ c : Option (κ × ι), page value place order limit rows view encode c =
      CursorPages.page (fun a => order.key (rowKey value place a)) limit rows view encode
        (c.map fun c => order.key (keyOf c)) := by
    intro c
    refine CursorPages.page_of_window _ _ _ view encode _ ?_
    rw [window, hafter]
    rfl
  exact ⟨hserves.first.trans (congrArg _ (hpage none)),
    fun a ha => (hserves.next a ha).trans (congrArg _ (hpage _))⟩

theorem Serves.of_walk (hserves : Serves value place fill order limit rows listing view encode)
    {cursor : Option String} {seen : List β} (h : Walk listing cursor seen) :
    ∀ a ∈ rows, cursor = some (encode a) → ∀ b ∈ seen, ∃ x ∈ rows, value x ≠ none ∧ b = view x := by
  have hitem : ∀ a ∈ rows, ∀ items next, listing (some (encode a)) = .ok (items, next) →
      (∀ b ∈ items, ∃ x ∈ rows, value x ≠ none ∧ b = view x) ∧
        ∀ s, next = some s → ∃ a ∈ rows, s = encode a := by
    intro a ha items next hpage
    have hsame := Except.ok.inj (hpage.symm.trans (hserves.next a ha))
    refine ⟨fun b hb => ?_, fun s hs => page_next ((congrArg Prod.snd hsame).symm.trans hs)⟩
    have hfirst : items = _ := congrArg Prod.fst hsame
    rw [hfirst, page_items] at hb
    obtain ⟨x, hx, rfl⟩ := List.mem_map.mp hb
    obtain ⟨hmem, hpasses⟩ := List.mem_filter.mp (List.mem_of_mem_take hx)
    obtain ⟨v, hv, -⟩ := passes_iff.mp hpasses
    exact ⟨x, hmem, by rw [hv]; exact Option.some_ne_none v, rfl⟩
  induction h with
  | last hpage =>
    rintro a ha rfl
    exact (hitem a ha _ _ hpage).1
  | more hpage hrest ih =>
    rintro a ha rfl b hb
    obtain ⟨hitems, hnext⟩ := hitem a ha _ _ hpage
    obtain hb | hb := List.mem_append.mp hb
    · exact hitems b hb
    · obtain ⟨a', ha', rfl⟩ := hnext _ rfl
      exact ih a' ha' rfl b hb

/-- A row without a value that is not on the first page of an ascending listing is never seen. -/
theorem Serves.not_lossless (hserves : Serves value place fill .asc limit rows listing view encode)
    (hlong : limit < rows.length)
    (hsorted : rows.Pairwise fun a b => rowKey value place a < rowKey value place b)
    (hident : (rows.map fun a => ident (view a)).Nodup) {a : α} (ha : a ∈ rows)
    (hvalue : value a = none) :
    ¬ CursorPages.Lossless listing ident (rows.map fun a => ident (view a)) := by
  rintro ⟨seen, hwalk, hperm⟩
  obtain ⟨init, z, rfl⟩ : ∃ init z, rows = init ++ [z] :=
    ⟨_, _, (List.dropLast_append_getLast (List.ne_nil_of_mem ha)).symm⟩
  have hz : z ∈ init ++ [z] := List.mem_append_right _ (List.mem_singleton_self z)
  have hzvalue : value z = none := by
    obtain hinit | hlast := List.mem_append.mp ha
    · have hlt := (List.pairwise_append.mp hsorted).2.2 a hinit z (List.mem_singleton_self z)
      exact none_of_le hlt.le hvalue
    · exact List.mem_singleton.mp hlast ▸ hvalue
  have hinit : limit ≤ init.length := by
    rw [List.length_append, List.length_singleton] at hlong
    omega
  have hunseen : z ∉ (init ++ [z]).take limit := by
    rw [List.take_append_of_le_length hinit]
    intro hmem
    have hlt := (List.pairwise_append.mp hsorted).2.2 z (List.mem_of_mem_take hmem) z
      (List.mem_singleton_self z)
    exact lt_irrefl _ hlt
  have honly : ∀ x ∈ init ++ [z], ident (view x) = ident (view z) → x = z :=
    fun x hx => List.inj_on_of_nodup_map hident hx hz
  obtain ⟨b, hb, hbz⟩ := List.mem_map.mp (hperm.mem_iff.mpr (List.mem_map_of_mem hz))
  have hfirst : ∀ items next, listing none = .ok (items, next) → b ∉ items := by
    intro items next hpage hb
    have hitems : items = _ := congrArg Prod.fst (Except.ok.inj (hpage.symm.trans hserves.first))
    rw [hitems, page_items] at hb
    obtain ⟨x, hx, rfl⟩ := List.mem_map.mp hb
    exact hunseen (honly x (List.mem_of_mem_take hx) hbz ▸ hx)
  cases hwalk with
  | last hpage => exact hfirst _ _ hpage hb
  | more hpage hrest =>
    obtain hb | hb := List.mem_append.mp hb
    · exact hfirst _ _ hpage hb
    · have hsame := Except.ok.inj (hpage.symm.trans hserves.first)
      obtain ⟨a', ha', hnext⟩ := page_next (congrArg Prod.snd hsame).symm
      obtain ⟨x, hx, hnamed, rfl⟩ := hserves.of_walk hrest a' ha' (congrArg some hnext) b hb
      exact hnamed (honly x hx hbz ▸ hzvalue)

theorem Serves.lossless_of_le
    (hserves : Serves value place fill order limit rows listing view encode)
    (hshort : rows.length ≤ limit) :
    CursorPages.Lossless listing ident (rows.map fun a => ident (view a)) := by
  have hwindow : window value place order limit rows none = rows :=
    List.take_of_length_le (hshort.trans (Nat.le_succ limit))
  have hpage : page value place order limit rows view encode none = (rows.map view, none) := by
    rw [page, hwindow]
    simp only [if_neg hshort.not_gt]
  refine ⟨rows.map view, .last (hserves.first.trans (congrArg _ hpage)), ?_⟩
  rw [List.map_map]
  rfl

/-- A reader sees every row exactly once exactly when the pages are whole. -/
theorem Serves.lossless_iff (hserves : Serves value place fill order limit rows listing view encode)
    (hlimit : 0 < limit) (hfill : ∀ a ∈ rows, ∀ v, value a = some v → fill ≤ v)
    (hsorted : rows.Pairwise fun a b =>
      order.key (rowKey value place b) < order.key (rowKey value place a))
    (hident : (rows.map fun a => ident (view a)).Nodup) :
    CursorPages.Lossless listing ident (rows.map fun a => ident (view a)) ↔
      Whole value place fill order limit rows := by
  by_cases hshort : rows.length ≤ limit
  · exact iff_of_true (hserves.lossless_of_le hshort) (.inl hshort)
  rw [Whole, or_iff_right hshort]
  by_cases hnamed : ∀ a ∈ rows, value a ≠ none
  · refine iff_of_true ?_ (.inl hnamed)
    have hcursors := hserves.servesAs (.inr hnamed)
    have hkeys : CursorPages.ServesAs (fun a => order.key (rowKey value place a)) limit rows
        (fun a => order.key (rowKey value place a)) listing view encode := by
      refine ⟨hcursors.first, fun a ha => (hcursors.next a ha).trans ?_⟩
      obtain ⟨v, hv⟩ := Option.ne_none_iff_exists'.mp (hnamed a ha)
      rw [keyOf_cursorOf hv]
    exact (hkeys.lossless_iff hlimit (fun _ => le_rfl) hsorted hident).mpr
      (CursorPages.seamless_of_pairwise hsorted)
  · rw [or_iff_right hnamed]
    cases order with
    | asc =>
      obtain ⟨a, ha⟩ := not_forall.mp hnamed
      obtain ⟨hmem, hvalue⟩ := Classical.not_imp.mp ha
      exact iff_of_false (hserves.not_lossless (Nat.lt_of_not_le hshort) hsorted hident hmem
        (not_not.mp hvalue)) fun h => by cases h.1
    | desc =>
      rw [and_iff_right rfl, (hserves.servesAs (.inl rfl)).lossless_iff hlimit
        (fun _ => keyOf_cursorOf_le) hsorted hident]
      exact seamless_iff hlimit (Nat.lt_of_not_le hshort) hfill hsorted

end Listings

end NullableKeyset
