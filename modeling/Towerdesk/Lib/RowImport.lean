import Towerdesk.Lib.Outcome
import Mathlib.Data.List.Induction
import Mathlib.Data.List.Nodup

/-!
# Importing rows

An import looks at its rows one by one and keeps those with nothing wrong and a key that no
earlier row has. What is kept is then written, row after row, in a transaction. A dry run stops
in between, and foretells the writing as far as nothing can go wrong in it; a second run may find
nothing left to write.
-/

namespace RowImport

section Scan

variable {κ ε β : Type*}

/-- What is found of one row: nothing in it, errors in front of its key, or a key with the error
that it is when the key was seen, the errors behind it and what is kept without them. -/
inductive Verdict (κ ε β : Type*)
  | blank
  | refused (errors : List ε)
  | keyed (key : κ) (duplicate : ε) (errors : List ε) (value : β)

structure Scan (κ ε β : Type*) where
  seen : List κ
  kept : List β
  errors : List ε

def Verdict.key : Verdict κ ε β → Option κ
  | keyed key _ _ _ => some key
  | _ => none

variable [DecidableEq κ]

def Scan.step (s : Scan κ ε β) : Verdict κ ε β → Scan κ ε β
  | .blank => s
  | .refused errors => { s with errors := s.errors ++ errors }
  | .keyed key duplicate errors value =>
    if key ∈ s.seen then { s with errors := s.errors ++ [duplicate] }
    else
      { seen := s.seen ++ [key]
        kept := if errors.isEmpty then s.kept ++ [value] else s.kept
        errors := s.errors ++ errors }

def scan (verdicts : List (Verdict κ ε β)) : Scan κ ε β := verdicts.foldl Scan.step ⟨[], [], []⟩

/-- What is said of a row behind rows with these keys. -/
def Verdict.errorsAfter (seen : List κ) : Verdict κ ε β → List ε
  | .blank => []
  | .refused errors => errors
  | .keyed key duplicate errors _ => if key ∈ seen then [duplicate] else errors

/-- What is kept of a row behind rows with these keys. -/
def Verdict.keptAfter (seen : List κ) : Verdict κ ε β → Option β
  | .keyed key _ errors value => if key ∉ seen ∧ errors = [] then some value else none
  | _ => none

variable {s : Scan κ ε β} {v : Verdict κ ε β} {vs : List (Verdict κ ε β)} {key : κ}

theorem step_errors : (s.step v).errors = s.errors ++ v.errorsAfter s.seen := by
  cases v with
  | blank => exact (List.append_nil _).symm
  | refused errors => rfl
  | keyed key duplicate errors value =>
    rw [Scan.step, Verdict.errorsAfter]
    by_cases hseen : key ∈ s.seen
    · simp [hseen]
    · simp [hseen]

theorem step_kept : (s.step v).kept = s.kept ++ (v.keptAfter s.seen).toList := by
  cases v with
  | blank => exact (List.append_nil _).symm
  | refused errors => exact (List.append_nil _).symm
  | keyed key duplicate errors value =>
    rw [Scan.step, Verdict.keptAfter]
    by_cases hseen : key ∈ s.seen
    · simp [hseen]
    · cases errors with
      | nil => simp [hseen]
      | cons e errors => simp [hseen]

theorem mem_step_seen : key ∈ (s.step v).seen ↔ key ∈ s.seen ∨ v.key = some key := by
  cases v with
  | blank => exact (or_iff_left (Option.some_ne_none key).symm).symm
  | refused errors => exact (or_iff_left (Option.some_ne_none key).symm).symm
  | keyed key' duplicate errors value =>
    rw [Scan.step, Verdict.key, Option.some.injEq]
    by_cases hseen : key' ∈ s.seen
    · rw [if_pos hseen]
      exact (or_iff_left_of_imp fun heq => heq ▸ hseen).symm
    · rw [if_neg hseen, List.mem_append, List.mem_singleton]
      exact or_congr_right eq_comm

theorem scan_append (v : Verdict κ ε β) : scan (vs ++ [v]) = (scan vs).step v := by
  rw [scan, List.foldl_append]
  rfl

theorem mem_seen : key ∈ (scan vs).seen ↔ key ∈ vs.filterMap Verdict.key := by
  induction vs using List.reverseRecOn with
  | nil => exact Iff.rfl
  | append_singleton vs v ih =>
    rw [scan_append, mem_step_seen, ih, List.filterMap_append, List.mem_append]
    refine or_congr_right ?_
    rw [List.mem_filterMap]
    exact ⟨fun h => ⟨v, List.mem_singleton_self v, h⟩,
      fun ⟨w, hw, h⟩ => List.mem_singleton.mp hw ▸ h⟩

theorem errorsAfter_congr {seen seen' : List κ} (h : ∀ key, key ∈ seen ↔ key ∈ seen') :
    v.errorsAfter seen = v.errorsAfter seen' := by
  cases v with
  | blank => rfl
  | refused errors => rfl
  | keyed key duplicate errors value => simp only [Verdict.errorsAfter, h]

theorem keptAfter_congr {seen seen' : List κ} (h : ∀ key, key ∈ seen ↔ key ∈ seen') :
    v.keptAfter seen = v.keptAfter seen' := by
  cases v with
  | blank => rfl
  | refused errors => rfl
  | keyed key duplicate errors value => simp only [Verdict.keptAfter, h]

theorem exists_item_append {α : Type*} {l : List α} {a : α} {P : List α → α → Prop} :
    (∃ i x, (l ++ [a])[i]? = some x ∧ P ((l ++ [a]).take i) x) ↔
      (∃ i x, l[i]? = some x ∧ P (l.take i) x) ∨ P l a := by
  constructor
  · rintro ⟨i, x, hx, hP⟩
    obtain hlt | hge := Nat.lt_or_ge i l.length
    · rw [List.getElem?_append_left hlt] at hx
      rw [List.take_append_of_le_length (Nat.le_of_lt hlt)] at hP
      exact .inl ⟨i, x, hx, hP⟩
    · rw [List.getElem?_append_right hge, List.getElem?_singleton] at hx
      split_ifs at hx with hzero
      obtain rfl := Option.some.inj hx
      obtain rfl : i = l.length := by omega
      rw [List.take_left] at hP
      exact .inr hP
  · rintro (⟨i, x, hx, hP⟩ | hP)
    · have hlt : i < l.length := (List.getElem?_eq_some_iff.mp hx).1
      refine ⟨i, x, by rw [List.getElem?_append_left hlt, hx], ?_⟩
      rwa [List.take_append_of_le_length (Nat.le_of_lt hlt)]
    · exact ⟨l.length, a, by simp, by rwa [List.take_left]⟩

theorem mem_kept {b : β} : b ∈ (scan vs).kept ↔
    ∃ (i : ℕ) (v : Verdict κ ε β), vs[i]? = some v ∧
      v.keptAfter ((vs.take i).filterMap Verdict.key) = some b := by
  induction vs using List.reverseRecOn with
  | nil => simp [scan]
  | append_singleton vs v ih =>
    rw [scan_append, step_kept, List.mem_append, ih, Option.mem_toList,
      exists_item_append (P := fun front (w : Verdict κ ε β) =>
        w.keptAfter (front.filterMap Verdict.key) = some b)]
    rw [keptAfter_congr fun _ => mem_seen]

theorem mem_errors {e : ε} : e ∈ (scan vs).errors ↔
    ∃ (i : ℕ) (v : Verdict κ ε β), vs[i]? = some v ∧
      e ∈ v.errorsAfter ((vs.take i).filterMap Verdict.key) := by
  induction vs using List.reverseRecOn with
  | nil => simp [scan]
  | append_singleton vs v ih =>
    rw [scan_append, step_errors, List.mem_append, ih, exists_item_append (P := fun front (w : Verdict κ ε β) =>
      e ∈ w.errorsAfter (front.filterMap Verdict.key))]
    rw [errorsAfter_congr fun _ => mem_seen]

theorem nodup_keys {keyOf : β → κ}
    (h : ∀ key duplicate errors value, .keyed key duplicate errors value ∈ vs →
      keyOf value = key) : ((scan vs).kept.map keyOf).Nodup := by
  suffices hall : ((scan vs).kept.map keyOf).Nodup ∧
      ∀ b ∈ (scan vs).kept, keyOf b ∈ (scan vs).seen from hall.1
  induction vs using List.reverseRecOn with
  | nil => exact ⟨List.nodup_nil, fun b hb => by cases hb⟩
  | append_singleton vs v ih =>
    obtain ⟨hnodup, hseen⟩ := ih fun key duplicate errors value hmem =>
      h key duplicate errors value (List.mem_append_left _ hmem)
    have hgrow : ∀ key, key ∈ (scan vs).seen → key ∈ ((scan vs).step v).seen :=
      fun key hkey => mem_step_seen.mpr (.inl hkey)
    rw [scan_append, step_kept]
    cases v with
    | blank => simpa [Verdict.keptAfter, Scan.step] using ⟨hnodup, hseen⟩
    | refused errors => simpa [Verdict.keptAfter, Scan.step] using ⟨hnodup, hseen⟩
    | keyed key duplicate errors value =>
      have hkey : keyOf value = key :=
        h key duplicate errors value (List.mem_append_right _ (List.mem_singleton_self _))
      rw [Verdict.keptAfter]
      split_ifs with hkept
      · refine ⟨?_, fun b hb => ?_⟩
        · rw [List.map_append, List.nodup_append]
          refine ⟨hnodup, List.nodup_singleton _, fun k hk k' hk' heq => hkept.1 ?_⟩
          obtain ⟨b, hb, rfl⟩ := List.mem_map.mp hk
          obtain rfl : k' = keyOf value := List.mem_singleton.mp hk'
          rw [← hkey, ← heq]
          exact hseen b hb
        · obtain hb | hb := List.mem_append.mp hb
          · exact hgrow _ (hseen b hb)
          · rw [List.mem_singleton.mp hb, hkey]
            exact mem_step_seen.mpr (.inr rfl)
      · rw [Option.toList_none, List.append_nil]
        exact ⟨hnodup, fun b hb => hgrow _ (hseen b hb)⟩

section Rows

variable {α σ : Type*} {rows : List α} {verdict : α × ℕ → Verdict κ ε β}

/-- A loop over numbered rows is the scan of their verdicts, where each turn is a step of it. -/
theorem scan_eq {toScan : σ → Scan κ ε β} {parse : σ → α × ℕ → σ}
    (hstep : ∀ acc entry, toScan (parse acc entry) = (toScan acc).step (verdict entry))
    {acc : σ} (hstart : toScan acc = ⟨[], [], []⟩) :
    toScan (rows.zipIdx.foldl parse acc) = scan (rows.zipIdx.map verdict) := by
  rw [scan, List.foldl_map, ← hstart]
  exact (List.foldl_hom toScan fun acc entry => (hstep acc entry).symm).symm

omit [DecidableEq κ] in
theorem getElem?_verdicts {i : ℕ} : (rows.zipIdx.map verdict)[i]? = some v ↔
    ∃ a, rows[i]? = some a ∧ verdict (a, i) = v := by
  rw [List.getElem?_map, List.getElem?_zipIdx, Option.map_map, Option.map_eq_some_iff,
    Nat.zero_add]
  rfl

omit [DecidableEq κ] in
theorem keys_verdicts {keyOf : α → Option κ} (hkey : ∀ entry, (verdict entry).key = keyOf entry.1)
    {i : ℕ} :
    ((rows.zipIdx.map verdict).take i).filterMap Verdict.key = (rows.take i).filterMap keyOf := by
  have hsame : Verdict.key ∘ verdict = keyOf ∘ Prod.fst := funext hkey
  have hrows : (rows.zipIdx.take i).map Prod.fst = rows.take i := by
    rw [List.map_take, List.zipIdx_map_fst]
  rw [← List.map_take, List.filterMap_map, hsame, ← List.filterMap_map, hrows]

theorem mem_kept_rows (keyOf : α → Option κ)
    (hkey : ∀ entry, (verdict entry).key = keyOf entry.1) {b : β} :
    b ∈ (scan (rows.zipIdx.map verdict)).kept ↔ ∃ (i : ℕ) (a : α), rows[i]? = some a ∧
      (verdict (a, i)).keptAfter ((rows.take i).filterMap keyOf) = some b := by
  simp only [mem_kept, getElem?_verdicts, keys_verdicts hkey]
  constructor
  · rintro ⟨i, _, ⟨a, ha, rfl⟩, hkept⟩
    exact ⟨i, a, ha, hkept⟩
  · rintro ⟨i, a, ha, hkept⟩
    exact ⟨i, _, ⟨a, ha, rfl⟩, hkept⟩

theorem mem_errors_rows (keyOf : α → Option κ)
    (hkey : ∀ entry, (verdict entry).key = keyOf entry.1) {e : ε} :
    e ∈ (scan (rows.zipIdx.map verdict)).errors ↔ ∃ (i : ℕ) (a : α), rows[i]? = some a ∧
      e ∈ (verdict (a, i)).errorsAfter ((rows.take i).filterMap keyOf) := by
  simp only [mem_errors, getElem?_verdicts, keys_verdicts hkey]
  constructor
  · rintro ⟨i, _, ⟨a, ha, rfl⟩, he⟩
    exact ⟨i, a, ha, he⟩
  · rintro ⟨i, a, ha, he⟩
    exact ⟨i, _, ⟨a, ha, rfl⟩, he⟩

theorem errors_rows_eq_nil_iff (keyOf : α → Option κ)
    (hkey : ∀ entry, (verdict entry).key = keyOf entry.1) :
    (scan (rows.zipIdx.map verdict)).errors = [] ↔ ∀ (i : ℕ) (a : α), rows[i]? = some a →
      (verdict (a, i)).errorsAfter ((rows.take i).filterMap keyOf) = [] := by
  simp only [List.eq_nil_iff_forall_not_mem, mem_errors_rows keyOf hkey]
  constructor
  · exact fun h i a ha e he => h e ⟨i, a, ha, he⟩
  · exact fun h e ⟨i, a, ha, he⟩ => h i a ha e he

/-- What is said of the row at an index: by the loop, and of what the loop keeps of it. -/
def aboutRow (verdict : α × ℕ → Verdict κ ε β) (keyOf : α → Option κ) (taken : List β → List ε)
    (rows : List α) (i : ℕ) : List ε :=
  match rows[i]? with
  | none => []
  | some a =>
    (verdict (a, i)).errorsAfter ((rows.take i).filterMap keyOf) ++
      taken ((verdict (a, i)).keptAfter ((rows.take i).filterMap keyOf)).toList

variable {keyOf : α → Option κ} {taken : List β → List ε} {e : ε} {i : ℕ}

theorem exists_aboutRow (hkey : ∀ entry, (verdict entry).key = keyOf entry.1)
    (htaken : ∀ l, e ∈ taken l → ∃ b ∈ l, e ∈ taken [b])
    (he : e ∈ (scan (rows.zipIdx.map verdict)).errors ++
      taken (scan (rows.zipIdx.map verdict)).kept) : ∃ i, e ∈ aboutRow verdict keyOf taken rows i := by
  obtain hloop | hkept := List.mem_append.mp he
  · obtain ⟨i, a, ha, he⟩ := (mem_errors_rows keyOf hkey).mp hloop
    refine ⟨i, ?_⟩
    rw [aboutRow, ha]
    exact List.mem_append_left _ he
  · obtain ⟨b, hb, he⟩ := htaken _ hkept
    obtain ⟨i, a, ha, hb⟩ := (mem_kept_rows keyOf hkey).mp hb
    refine ⟨i, ?_⟩
    rw [aboutRow, ha]
    refine List.mem_append_right _ ?_
    rwa [hb]

theorem number_of_aboutRow {number : ε → ℕ} {f : ℕ → ℕ}
    (hverdict : ∀ a i seen, ∀ e ∈ (verdict (a, i)).errorsAfter seen, number e = f i)
    (hkept : ∀ a i seen b, (verdict (a, i)).keptAfter seen = some b →
      ∀ e ∈ taken [b], number e = f i) (hnil : taken [] = [])
    (he : e ∈ aboutRow verdict keyOf taken rows i) : i < rows.length ∧ number e = f i := by
  rw [aboutRow] at he
  cases hrow : rows[i]? with
  | none =>
    rw [hrow] at he
    cases he
  | some a =>
    rw [hrow] at he
    refine ⟨(List.getElem?_eq_some_iff.mp hrow).1, ?_⟩
    obtain hloop | htaken := List.mem_append.mp he
    · exact hverdict a i _ e hloop
    · cases hb : (verdict (a, i)).keptAfter ((rows.take i).filterMap keyOf) with
      | none =>
        rw [hb, Option.toList_none, hnil] at htaken
        cases htaken
      | some b =>
        rw [hb] at htaken
        exact hkept a i _ b hb e htaken

end Rows

end Scan

section Writing

variable {α σ ε κ : Type*} {write : σ → α → Except ε σ} {I : List α → σ → Prop}
  {P : α → Prop} {J : σ → Prop} {key : α → κ} {rows front back : List α} {a : α} {s s' : σ}

theorem mem_of_split (h : rows = front ++ a :: back) : a ∈ rows := by
  rw [h]
  exact List.mem_append_right _ List.mem_cons_self

theorem key_ne_of_split (hnodup : (rows.map key).Nodup) (h : rows = front ++ a :: back) :
    ∀ b ∈ front, key b ≠ key a := by
  intro b hb
  rw [h, List.map_append, List.map_cons, List.nodup_append] at hnodup
  exact hnodup.2.2 _ (List.mem_map_of_mem hb) _ List.mem_cons_self

theorem foldlM_inv
    (hinv : ∀ front a back s s', rows = front ++ a :: back → I front s → write s a = .ok s' →
      I (front ++ [a]) s') (hstart : I [] s) (h : rows.foldlM write s = .ok s') :
    I rows s' := by
  suffices hrest : ∀ front back s, rows = front ++ back → I front s →
      back.foldlM write s = .ok s' → I rows s' from hrest [] rows s rfl hstart h
  intro front back
  induction back generalizing front with
  | nil =>
    intro s hrows hfront hend
    rw [hrows, List.append_nil]
    exact Except.ok.inj hend ▸ hfront
  | cons a back ih =>
    intro s hrows hfront hend
    rw [List.foldlM_cons] at hend
    obtain ⟨s₁, hwrite, hend⟩ := Outcome.bind_eq_ok.mp hend
    exact ih (front ++ [a]) s₁ (by simpa using hrows) (hinv front a back s s₁ hrows hfront hwrite)
      hend

/-- The rows are all written exactly when each of them fits, where that is what each write needs
under the invariant. -/
theorem foldlM_ok_iff
    (hinv : ∀ front a back s s', rows = front ++ a :: back → I front s → write s a = .ok s' →
      I (front ++ [a]) s')
    (hok : ∀ front a back s, rows = front ++ a :: back → I front s →
      ((∃ s', write s a = .ok s') ↔ P a)) (hstart : I [] s) :
    (∃ s', rows.foldlM write s = .ok s') ↔ ∀ a ∈ rows, P a := by
  suffices hrest : ∀ front back s, rows = front ++ back → I front s →
      ((∃ s', back.foldlM write s = .ok s') ↔ ∀ a ∈ back, P a) from
    hrest [] rows s rfl hstart
  intro front back
  induction back generalizing front with
  | nil => exact fun s _ _ => iff_of_true ⟨s, rfl⟩ fun a ha => by cases ha
  | cons a back ih =>
    intro s hrows hfront
    have hrows' : rows = (front ++ [a]) ++ back := by simpa using hrows
    rw [List.forall_mem_cons, ← hok front a back s hrows hfront]
    constructor
    · rintro ⟨s', hs'⟩
      rw [List.foldlM_cons] at hs'
      obtain ⟨s₁, hwrite, hback⟩ := Outcome.bind_eq_ok.mp hs'
      have hnext := hinv front a back s s₁ hrows hfront hwrite
      exact ⟨⟨s₁, hwrite⟩, (ih (front ++ [a]) s₁ hrows' hnext).mp ⟨s', hback⟩⟩
    · rintro ⟨⟨s₁, hwrite⟩, hfits⟩
      have hnext := hinv front a back s s₁ hrows hfront hwrite
      rw [List.foldlM_cons]
      exact Outcome.exists_bind_ok hwrite ((ih (front ++ [a]) s₁ hrows' hnext).mpr hfits)

/-- Where a write settles its row and leaves the rows of other keys settled, all rows are settled
when they are written. -/
theorem foldlM_settles {Q : α → σ → Prop} (hnodup : (rows.map key).Nodup)
    (hinv : ∀ front a back s s', rows = front ++ a :: back → I front s → write s a = .ok s' →
      I (front ++ [a]) s')
    (hsettles : ∀ front a back s s', rows = front ++ a :: back → I front s → write s a = .ok s' →
      Q a s' ∧ ∀ b, key b ≠ key a → Q b s → Q b s')
    (hstart : I [] s) (h : rows.foldlM write s = .ok s') : ∀ a ∈ rows, Q a s' := by
  have hrun := foldlM_inv (I := fun front s => I front s ∧ ∀ a ∈ front, Q a s)
    (fun front a back s s' hrows hfront hwrite => ?_) ⟨hstart, fun a ha => by cases ha⟩ h
  · exact hrun.2
  · obtain ⟨hwritten, hbefore⟩ := hfront
    obtain ⟨hnew, hkept⟩ := hsettles front a back s s' hrows hwritten hwrite
    refine ⟨hinv front a back s s' hrows hwritten hwrite, fun b hb => ?_⟩
    rcases List.mem_append.mp hb with hb | hb
    · exact hkept b (key_ne_of_split hnodup hrows b hb) (hbefore b hb)
    · rw [List.mem_singleton.mp hb]
      exact hnew

theorem foldlM_keeps (hwrite : ∀ a ∈ rows, ∀ s, J s → ∃ s', write s a = .ok s' ∧ J s')
    (hstart : J s) : ∃ s', rows.foldlM write s = .ok s' ∧ J s' := by
  induction rows generalizing s with
  | nil => exact ⟨s, rfl, hstart⟩
  | cons a rows ih =>
    obtain ⟨s₁, hfirst, hkept⟩ := hwrite a List.mem_cons_self s hstart
    obtain ⟨s', hrest, hend⟩ := ih (fun b hb => hwrite b (List.mem_cons_of_mem a hb)) hkept
    refine ⟨s', ?_, hend⟩
    rw [List.foldlM_cons]
    exact Outcome.bind_eq_ok.mpr ⟨s₁, hfirst, hrest⟩

end Writing

section DryRun

universe u

variable {σ ε : Type u} {τ : Type*}

/-- What a run reports of itself. -/
structure Report (ε : Type*) where
  errors : List ε
  validRows : ℕ
  written : ℕ

/-- The dry run has no errors exactly when the real run commits, and then as many rows are written
as it has valid ones; its errors are those of a real run that writes nothing. -/
structure Predicts (db : σ) (dry real : Except τ (σ × Report ε)) : Prop where
  commits : (∃ r, dry = .ok r ∧ r.2.errors = []) ↔ ∃ r, real = .ok r ∧ r.2.errors = []
  counts : ∀ r r', dry = .ok r → real = .ok r' → r.2.errors = [] → r'.2.written = r.2.validRows
  refuses : ∀ r, dry = .ok r → r.2.errors ≠ [] →
    ∃ r', real = .ok r' ∧ r'.2.errors = r.2.errors ∧ r'.1 = db

variable {db : σ} {dry real : Except τ (σ × Report ε)} {errors : List ε} {validRows : ℕ}

theorem predicts_of_error {e e' : τ} (hdry : dry = .error e) (hreal : real = .error e') :
    Predicts db dry real where
  commits := by
    rw [hdry, hreal]
    exact iff_of_false (fun ⟨_, h, _⟩ => by cases h) fun ⟨_, h, _⟩ => by cases h
  counts r r' h := by
    rw [hdry] at h
    cases h
  refuses r h := by
    rw [hdry] at h
    cases h

/-- A dry run that shares its checks with the real one foretells it exactly when what has passed
them is written. -/
theorem predicts_iff (hdry : dry = .ok (db, ⟨errors, validRows, 0⟩))
    (hrefused : errors ≠ [] → real = .ok (db, ⟨errors, validRows, 0⟩))
    (hwritten : errors = [] → ∀ r, real = .ok r → r.2.errors = [] ∧ r.2.written = validRows) :
    Predicts db dry real ↔ (errors = [] → ∃ r, real = .ok r) := by
  constructor
  · intro h hnil
    obtain ⟨r, hr, -⟩ := h.commits.mp ⟨_, hdry, hnil⟩
    exact ⟨r, hr⟩
  · intro h
    refine ⟨?_, fun r r' hr hr' hnil => ?_, fun r hr hne => ?_⟩
    · constructor
      · rintro ⟨r, hr, hnil⟩
        obtain rfl := Except.ok.inj (hdry.symm.trans hr)
        obtain ⟨r', hr'⟩ := h hnil
        exact ⟨r', hr', (hwritten hnil r' hr').1⟩
      · rintro ⟨r, hr, hnil⟩
        refine ⟨_, hdry, ?_⟩
        by_contra hne
        obtain rfl := Except.ok.inj ((hrefused hne).symm.trans hr)
        exact hne hnil
    · obtain rfl := Except.ok.inj (hdry.symm.trans hr)
      exact (hwritten hnil r' hr').2
    · obtain rfl := Except.ok.inj (hdry.symm.trans hr)
      exact ⟨_, hrefused hne, rfl, rfl⟩

theorem predicts_bind_iff {γ : Type u} {gate : Except τ γ} {dry real : γ → Except τ (σ × Report ε)} :
    Predicts db (gate >>= dry) (gate >>= real) ↔
      ∀ c, gate = .ok c → Predicts db (dry c) (real c) := by
  cases gate with
  | error e =>
    refine iff_of_true (predicts_of_error rfl rfl) fun c hc => ?_
    cases hc
  | ok c =>
    constructor
    · intro h c' hc
      rwa [← Except.ok.inj hc]
    · exact fun h => h c rfl

/-- A run behind its checks: it stops at an error, or when it is a dry run, and writes otherwise. -/
def checkedRun (db : σ) (errors : List ε) (validRows : ℕ) (write : Except τ (σ × ℕ))
    (dryRun : Bool) : Except τ (σ × Report ε) :=
  if dryRun = true ∨ errors ≠ [] then .ok (db, ⟨errors, validRows, 0⟩)
  else (fun r => (r.1, ⟨[], validRows, r.2⟩)) <$> write

theorem exists_map_ok {α β : Type u} {x : Except τ α} {f : α → β} :
    (∃ b, f <$> x = .ok b) ↔ ∃ a, x = .ok a := by
  constructor
  · rintro ⟨b, hb⟩
    obtain ⟨a, ha, -⟩ := Outcome.map_eq_ok.mp hb
    exact ⟨a, ha⟩
  · rintro ⟨a, ha⟩
    exact ⟨f a, Outcome.map_eq_ok.mpr ⟨a, ha, rfl⟩⟩

theorem predicts_checkedRun_iff {write : Except τ (σ × ℕ)}
    (hcounted : errors = [] → ∀ r, write = .ok r → r.2 = validRows) :
    Predicts db (checkedRun db errors validRows write true)
        (checkedRun db errors validRows write false) ↔
      (errors = [] → ∃ r, write = .ok r) := by
  have hdry : checkedRun db errors validRows write true = .ok (db, ⟨errors, validRows, 0⟩) :=
    if_pos (.inl rfl)
  have hrefused : errors ≠ [] →
      checkedRun db errors validRows write false = .ok (db, ⟨errors, validRows, 0⟩) :=
    fun hne => if_pos (.inr hne)
  have hreal : errors = [] → checkedRun db errors validRows write false =
      (fun r => (r.1, ⟨[], validRows, r.2⟩)) <$> write := fun hnil => if_neg (by simp [hnil])
  rw [predicts_iff hdry hrefused]
  · refine forall_congr' fun hnil => ?_
    rw [hreal hnil, exists_map_ok]
  · intro hnil r hr
    rw [hreal hnil] at hr
    obtain ⟨w, hw, rfl⟩ := Outcome.map_eq_ok.mp hr
    exact ⟨rfl, hcounted hnil w hw⟩

end DryRun

section Twice

universe u

variable {σ : Type u} {ε τ : Type*} {db : σ} {errors : List ε} {write : Except τ (σ × ℕ)}
  {run run' : σ → Except τ (σ × ℕ)} {r : σ × ℕ}

/-- A run behind its checks, with the number of rows it creates. -/
def guardedRun (db : σ) (errors : List ε) (write : Except τ (σ × ℕ)) : Except τ (σ × ℕ) :=
  if errors = [] then write else .ok (db, 0)

theorem guardedRun_eq_ok :
    guardedRun db errors write = .ok r ↔
      (errors = [] ∧ write = .ok r) ∨ (errors ≠ [] ∧ (db, 0) = r) := by
  rw [guardedRun]
  by_cases herrors : errors = []
  · simp [herrors]
  · simp [herrors]

theorem exists_guardedRun_iff :
    (∃ r, guardedRun db errors write = .ok r) ↔ (errors = [] → ∃ r, write = .ok r) := by
  rw [guardedRun]
  split_ifs with herrors
  · rw [imp_iff_right herrors]
  · exact iff_of_true ⟨_, rfl⟩ fun h => absurd h herrors

theorem guardedRun_of_write (h : write = .ok (db, 0)) :
    guardedRun db errors write = .ok (db, 0) := by
  rw [guardedRun, h, ite_self]

/-- Behind a run that returned, a second one creates nothing and changes nothing; where the first
threw, the second does. -/
structure Settles (run run' : σ → Except τ (σ × ℕ)) (db : σ) : Prop where
  again : ∀ r, run db = .ok r → run' r.1 = .ok (r.1, 0)
  throws : ∀ e, run db = .error e → ∃ e', run' db = .error e'

theorem throws_of_ok_iff (h : (∃ r, run' db = .ok r) → ∃ r, run db = .ok r) {e : τ}
    (hrun : run db = .error e) : ∃ e', run' db = .error e' := by
  cases hrun' : run' db with
  | error e' => exact ⟨e', rfl⟩
  | ok r =>
    obtain ⟨r', hr'⟩ := h ⟨r, hrun'⟩
    rw [hrun] at hr'
    cases hr'

theorem settles_bind {γ : Type u} {gate : σ → Except τ γ} {body body' : γ → σ → Except τ (σ × ℕ)}
    (hgate : ∀ c r, body c db = .ok r → gate r.1 = gate db)
    (h : ∀ c, gate db = .ok c → Settles (body c) (body' c) db) :
    Settles (fun db => gate db >>= fun c => body c db)
      (fun db => gate db >>= fun c => body' c db) db where
  again r hrun := by
    obtain ⟨c, hc, hbody⟩ := Outcome.bind_eq_ok.mp hrun
    exact Outcome.bind_eq_ok.mpr ⟨c, (hgate c r hbody).trans hc, (h c hc).again r hbody⟩
  throws e hrun := by
    cases hc : gate db with
    | error e' => exact ⟨e', rfl⟩
    | ok c =>
      rw [hc] at hrun
      exact (h c hc).throws e hrun

end Twice

end RowImport
