import Mathlib.Data.List.Chain

/-!
# Ledgers of changes

Entries that each record where a value came from and where it went. A ledger
accounts for a value when its entries link up from the initial value to the current
one; `resets` says whether the value may also fall back to the initial one without
an entry.
-/

namespace Ledger

variable {ε σ : Type*} (src dst : ε → σ)

/-- The entries of one change from `a` to `b`: the change itself, then confirmations of
`b`. -/
def Records (a b : σ) : List ε → Prop
  | [] => a = b
  | e :: es => src e = a ∧ dst e = b ∧ ∀ e' ∈ es, src e' = b ∧ dst e' = b

structure Accounts (resets : Prop) (s₀ : σ) (es : List ε) (s : σ) : Prop where
  head : ∀ e ∈ es.head?, src e = s₀
  chain : es.IsChain fun e e' => src e' = dst e ∨ (resets ∧ src e' = s₀)
  current : s = (es.getLast?.map dst).getD s₀ ∨ (resets ∧ s = s₀)

variable {src dst} {resets : Prop} {s₀ s a b : σ} {es fs : List ε}

theorem accounts_nil : Accounts src dst resets s₀ [] s₀ :=
  ⟨by simp, .nil, .inl rfl⟩

theorem Accounts.reset (h : Accounts src dst resets s₀ es s) (hr : resets) :
    Accounts src dst resets s₀ es s₀ :=
  ⟨h.head, h.chain, .inr ⟨hr, rfl⟩⟩

theorem Accounts.concat (h : Accounts src dst resets s₀ es s) {e : ε} (he : src e = s) :
    Accounts src dst resets s₀ (es ++ [e]) (dst e) := by
  refine ⟨fun f hf => ?_, ?_, .inl (by simp)⟩
  · cases es with
    | nil =>
      obtain rfl : e = f := by simpa using hf
      rcases h.current with hs | ⟨-, hs⟩
      · simpa [he] using hs
      · rw [he, hs]
    | cons d es => exact h.head f (by simpa using hf)
  · refine List.isChain_append.mpr ⟨h.chain, .singleton e, fun d hd f hf => ?_⟩
    obtain rfl : e = f := by simpa using hf
    rw [Option.mem_def] at hd
    rcases h.current with hs | ⟨hr, hs⟩
    · exact .inl (by simpa [hd, he] using hs)
    · exact .inr ⟨hr, he.trans hs⟩

theorem Accounts.confirm (h : Accounts src dst resets s₀ es s)
    (hfs : ∀ e ∈ fs, src e = s ∧ dst e = s) : Accounts src dst resets s₀ (es ++ fs) s := by
  induction fs generalizing es with
  | nil => rwa [List.append_nil]
  | cons f fs ih =>
    obtain ⟨hsrc, hdst⟩ := hfs f List.mem_cons_self
    have hf := h.concat hsrc
    rw [hdst] at hf
    rw [List.append_cons]
    exact ih hf fun e he => hfs e (List.mem_cons_of_mem f he)

theorem Accounts.append (h : Accounts src dst resets s₀ es a)
    (hfs : Records src dst a b fs) : Accounts src dst resets s₀ (es ++ fs) b := by
  cases fs with
  | nil => exact hfs ▸ h.confirm (by simp)
  | cons f fs =>
    obtain ⟨hsrc, rfl, hrest⟩ := hfs
    rw [List.append_cons]
    exact (h.concat hsrc).confirm hrest

theorem Records.exists_of_ne (h : Records src dst a b es) (hne : a ≠ b) :
    ∃ e ∈ es, src e = a ∧ dst e = b := by
  cases es with
  | nil => exact absurd h hne
  | cons e es => exact ⟨e, List.mem_cons_self, h.1, h.2.1⟩

theorem Records.map {ε' σ' : Type*} {src' dst' : ε' → σ'} {f : ε' → ε} {g : σ' → σ} {a b : σ'}
    {es : List ε'} (h : Records src' dst' a b es) (hsrc : ∀ e, src (f e) = g (src' e))
    (hdst : ∀ e, dst (f e) = g (dst' e)) : Records src dst (g a) (g b) (es.map f) := by
  cases es with
  | nil => exact congrArg g h
  | cons e es =>
    obtain ⟨rfl, rfl, hrest⟩ := h
    refine ⟨hsrc e, hdst e, fun e' he' => ?_⟩
    obtain ⟨d, hd, rfl⟩ := List.mem_map.mp he'
    obtain ⟨hs, ht⟩ := hrest d hd
    exact ⟨by rw [hsrc, hs], by rw [hdst, ht]⟩

end Ledger
