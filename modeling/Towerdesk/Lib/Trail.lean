import Towerdesk.Lib.Constraint
import Towerdesk.Lib.Ledger

/-!
# Trails of a table's changes

Entries that each refer to a row of a table and record a change of its status. A change of
the table is recorded when the entries that come with it are, row by row, the change of that
row; the trail explains the table when the entries of each row account for its status, from
the row's creation on.
-/

universe u

variable {α κ : Type u} {ε σ : Type*} {key : α → κ} [DecidableEq κ]

namespace Table

theorem filter_key_eq (t : Table key) (k : κ) :
    t.rows.filter (key · = k) = (t.findUnique k).toList := by
  cases hf : t.findUnique k with
  | none =>
    refine List.filter_eq_nil_iff.mpr fun a ha => ?_
    exact List.find?_eq_none.mp hf a ha
  | some b =>
    obtain ⟨hb, hk⟩ := findUnique_eq_some.mp hf
    refine List.perm_singleton.mp ((List.perm_ext_iff_of_nodup
      (t.nodup.of_map.filter _) (List.nodup_singleton b)).mpr fun a => ?_)
    rw [List.mem_filter, List.mem_singleton]
    constructor
    · intro h
      exact eq_of_key_eq h.1 hb ((of_decide_eq_true h.2).trans hk.symm)
    · intro h
      exact h ▸ ⟨hb, decide_eq_true hk⟩

theorem findUnique_modifyWhere {t : Table key} {q : α → Bool} {p : Patch key} (k : κ) :
    (t.modifyWhere q p).findUnique k =
      (t.findUnique k).map fun a => if q a then p.apply a else a := by
  have hkey : ∀ a, key (if q a then p.apply a else a) = key a := by
    intro a
    split
    · exact p.key_apply a
    · rfl
  simp only [findUnique, modifyWhere, List.find?_map, Function.comp_def, hkey]

theorem findUnique_eq_none_of_insert {t t' : Table key} {a : α} (h : t.insert a = some t') :
    t.findUnique (key a) = none := by
  refine List.find?_eq_none.mpr fun b hb => ?_
  simpa using fresh_of_insert h hb

end Table

/-- How the entries of a trail are read. -/
structure Trail (key : α → κ) (ε σ : Type*) where
  status : α → σ
  row : ε → κ
  before : ε → Option σ
  after : ε → σ

namespace Trail

variable (tr : Trail key ε σ)

def statusOf (t : Table key) (k : κ) : Option σ := (t.findUnique k).map tr.status

def entriesOf (es : List ε) (k : κ) : List ε := es.filter (tr.row · = k)

def Recorded (t t' : Table key) (es : List ε) : Prop :=
  ∀ k, Ledger.Records tr.before (fun e => some (tr.after e)) (tr.statusOf t k) (tr.statusOf t' k)
    (tr.entriesOf es k)

def Explains (t : Table key) (es : List ε) : Prop :=
  ∀ k, Ledger.Accounts tr.before (fun e => some (tr.after e)) False none (tr.entriesOf es k)
    (tr.statusOf t k)

variable {tr} {t t' : Table key} {es fs : List ε} {e : ε} {a : α} {q : α → Bool} {p : Patch key}

theorem explains_empty : tr.Explains (.empty key) [] := fun _ => Ledger.accounts_nil

theorem Explains.append (h : tr.Explains t es) (hfs : tr.Recorded t t' fs) :
    tr.Explains t' (es ++ fs) := by
  intro k
  rw [entriesOf, List.filter_append]
  exact (h k).append (hfs k)

theorem entriesOf_single (e : ε) : tr.entriesOf [e] (tr.row e) = [e] := by
  simp [entriesOf]

theorem entriesOf_single_of_ne {k : κ} (h : tr.row e ≠ k) : tr.entriesOf [e] k = [] := by
  simp [entriesOf, h]

theorem recorded_nil : tr.Recorded t t [] := fun _ => rfl

theorem recorded_confirm (ha : a ∈ t) (hrow : tr.row e = key a)
    (hbefore : tr.before e = some (tr.status a)) (hafter : tr.after e = tr.status a) :
    tr.Recorded t t [e] := by
  intro k
  by_cases hk : tr.row e = k
  · subst hk
    have hstatus : tr.statusOf t (tr.row e) = some (tr.status a) := by
      rw [statusOf, Table.findUnique_eq_some.mpr ⟨ha, hrow.symm⟩]
      rfl
    rw [entriesOf_single, hstatus]
    exact ⟨hbefore, congrArg some hafter, by simp⟩
  · rw [entriesOf_single_of_ne hk]
    rfl

theorem recorded_insert (h : t.insert a = some t') (hrow : tr.row e = key a)
    (hbefore : tr.before e = none) (hafter : tr.after e = tr.status a) :
    tr.Recorded t t' [e] := by
  intro k
  by_cases hk : tr.row e = k
  · subst hk
    have hold : tr.statusOf t (tr.row e) = none := by
      rw [statusOf, hrow, Table.findUnique_eq_none_of_insert h]
      rfl
    have hnew : tr.statusOf t' (tr.row e) = some (tr.status a) := by
      rw [statusOf, Table.findUnique_insert h, if_pos hrow.symm]
      rfl
    rw [entriesOf_single, hold, hnew]
    exact ⟨hbefore, congrArg some hafter, by simp⟩
  · rw [entriesOf_single_of_ne hk]
    change tr.statusOf t k = tr.statusOf t' k
    rw [statusOf, statusOf, Table.findUnique_insert h, if_neg (hrow ▸ hk)]

theorem recorded_modifyWhere
    (h : es.map (fun e => (tr.row e, tr.before e, tr.after e)) =
      (t.rows.filter q).map fun a => (key a, some (tr.status a), tr.status (p.apply a))) :
    tr.Recorded t (t.modifyWhere q p) es := by
  intro k
  have hentries : (tr.entriesOf es k).map (fun e => (tr.row e, tr.before e, tr.after e)) =
      ((t.findUnique k).toList.filter q).map fun a =>
        (key a, some (tr.status a), tr.status (p.apply a)) := by
    have hfilter := congrArg (List.filter fun x : κ × Option σ × σ => decide (x.1 = k)) h
    rw [List.filter_map, List.filter_map] at hfilter
    rw [← Table.filter_key_eq, List.filter_comm]
    exact hfilter
  unfold statusOf
  rw [Table.findUnique_modifyWhere]
  cases hf : t.findUnique k with
  | none =>
    rw [hf] at hentries
    rw [List.map_eq_nil_iff.mp hentries]
    rfl
  | some a =>
    rw [hf] at hentries
    by_cases hq : q a = true
    · have hone : [a].filter q = [a] := by simp [hq]
      obtain ⟨e, he, hsig⟩ := List.map_eq_singleton_iff.mp
        (hentries.trans (congrArg _ hone))
      obtain ⟨-, hbefore, hafter⟩ : tr.row e = key a ∧ tr.before e = some (tr.status a) ∧
          tr.after e = tr.status (p.apply a) := by
        simpa using hsig
      rw [he, Option.map_some, Option.map_some, if_pos hq]
      exact ⟨hbefore, congrArg some hafter, by simp⟩
    · have hnil : [a].filter q = [] := by simp [hq]
      have hnone := List.map_eq_nil_iff.mp (hentries.trans (congrArg _ hnil))
      rw [hnone, Option.map_some, Option.map_some, if_neg hq]
      rfl

end Trail
