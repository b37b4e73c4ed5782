import Towerdesk.Delivery.Task
import Towerdesk.Lib.Interleaving
import Mathlib.Data.List.Pairwise

/-!
# A task handed over

What executions and retries of one task may do in turn so that a retry takes the task over
for good: an execution begins on a task that is open and was never claimed, it gives up
only a task that has not succeeded, and a retry claims a failed task while nobody is at
work on it. In any order, the task is then replaced at most once, what is final stays, and
nothing is delivered after a claim.
-/

namespace Towerdesk.Delivery.Handover

open Interleaving (Config)

inductive Event
  | delivered
  | claimed
  | replaced
deriving DecidableEq, Repr

structure Desk where
  status : DeliveryTaskStatus
  events : List Event

/-- An execution is at work while it is busy, a retry while it holds the task. -/
inductive Phase
  | idle
  | busy
  | holding
  | replacing
  | releasing
  | over
deriving DecidableEq, Repr

def Phase.holds : Phase → Bool
  | .holding | .replacing | .releasing => true
  | .idle | .busy | .over => false

def IsFinal (status : DeliveryTaskStatus) : Prop := status = .SUCCEEDED ∨ status = .RETRIED

def NothingAfterClaim (events : List Event) : Prop :=
  events.Pairwise fun e e' => e = .claimed → e' ≠ .delivered

instance (status : DeliveryTaskStatus) : Decidable (IsFinal status) :=
  inferInstanceAs (Decidable (_ ∨ _))

instance (events : List Event) : Decidable (NothingAfterClaim events) :=
  inferInstanceAs (Decidable (events.Pairwise _))

/-- One step of a party, where `free` says that no execution is at work. -/
inductive Moves (free : Prop) : Phase → Desk → Phase → Desk → Prop
  | stay (ph : Phase) (d : Desk) : Moves free ph d ph d
  | leave (ph : Phase) (d : Desk) : Moves free ph d .over d
  | begin (d : Desk) (hclaim : .claimed ∉ d.events) (hopen : ¬ IsFinal d.status) :
      Moves free .idle d .busy { d with status := .PROCESSING }
  | deliver (d : Desk) : Moves free .busy d .busy { d with events := d.events ++ [.delivered] }
  | succeed (d : Desk) : Moves free .busy d .over { d with status := .SUCCEEDED }
  | commit (d : Desk) (ph : Phase) (hph : ph = .busy ∨ ph = .over) :
      Moves free .busy d ph ⟨.SUCCEEDED, d.events ++ [.delivered]⟩
  | giveUp (d : Desk) (status : DeliveryTaskStatus) (hstatus : ¬ IsFinal status)
      (hopen : d.status ≠ .SUCCEEDED) : Moves free .busy d .over { d with status }
  | claim (d : Desk) (hfree : free) (hfailed : d.status = .FAILED) :
      Moves free .idle d .holding ⟨.PROCESSING, d.events ++ [.claimed]⟩
  | throw (d : Desk) : Moves free .holding d .releasing d
  | replace (d : Desk) :
      Moves free .holding d .replacing { d with events := d.events ++ [.replaced] }
  | release (d : Desk) : Moves free .releasing d .over { d with status := .FAILED }
  | retire (d : Desk) : Moves free .replacing d .over { d with status := .RETRIED }

variable {π : Type*}

def Free (c : Config π Phase Desk) : Prop := ∀ p, c.locals p ≠ .busy

structure InOrder (c : Config π Phase Desk) : Prop where
  ordered : NothingAfterClaim c.shared.events
  once : c.shared.events.count .replaced ≤ 1
  /-- Nobody is at work on a task that was claimed or replaced. -/
  unclaimed : ∀ p, c.locals p = .busy →
    .claimed ∉ c.shared.events ∧ c.shared.status ≠ .RETRIED
  one_holder : ∀ p q, (c.locals p).holds = true → (c.locals q).holds = true → p = q
  held : ∀ p, (c.locals p).holds = true →
    .claimed ∈ c.shared.events ∧ c.shared.status = .PROCESSING
  unreplaced : ∀ p, c.locals p = .holding ∨ c.locals p = .releasing →
    .replaced ∉ c.shared.events
  taken : .replaced ∈ c.shared.events → .claimed ∈ c.shared.events ∧
    (c.shared.status = .PROCESSING ∨ c.shared.status = .RETRIED)

theorem inOrder_start (status : DeliveryTaskStatus) :
    InOrder (Config.start ⟨status, []⟩ .idle : Config π Phase Desk) where
  ordered := List.Pairwise.nil
  once := Nat.zero_le 1
  unclaimed _ h := nomatch h
  one_holder _ _ h := nomatch h
  held _ h := nomatch h
  unreplaced _ h := nomatch h
  taken h := nomatch h

section Cases

variable {c : Config π Phase Desk} {p : π}

theorem nothingAfterClaim_concat {events : List Event} {e : Event} (h : NothingAfterClaim events)
    (he : .claimed ∈ events → e ≠ .delivered) : NothingAfterClaim (events ++ [e]) := by
  refine List.pairwise_append.mpr ⟨h, List.pairwise_singleton _ _, ?_⟩
  rintro e₀ he₀ e₁ he₁ rfl
  rw [List.mem_singleton.mp he₁]
  exact he he₀

theorem InOrder.not_holds (h : InOrder c) (hclaim : .claimed ∉ c.shared.events) (q : π) :
    (c.locals q).holds ≠ true :=
  fun hq => hclaim (h.held q hq).1

theorem InOrder.not_replaced (h : InOrder c) (hclaim : .claimed ∉ c.shared.events) :
    .replaced ∉ c.shared.events :=
  fun hreplaced => hclaim (h.taken hreplaced).1

theorem InOrder.free (h : InOrder c) (hp : (c.locals p).holds = true) : Free c :=
  fun q hq => (h.unclaimed q hq).1 (h.held p hp).1

theorem inOrder_of_unclaimed (hclaim : .claimed ∉ c.shared.events)
    (hreplaced : .replaced ∉ c.shared.events) (hholds : ∀ q, (c.locals q).holds ≠ true)
    (hretried : ∀ q, c.locals q = .busy → c.shared.status ≠ .RETRIED) : InOrder c where
  ordered := by
    refine List.pairwise_iff_forall_sublist.mpr fun {e e'} hsub he => ?_
    exact absurd (hsub.subset (he ▸ List.mem_cons_self)) hclaim
  once := by
    rw [List.count_eq_zero_of_not_mem hreplaced]
    exact Nat.zero_le 1
  unclaimed q hq := ⟨hclaim, hretried q hq⟩
  one_holder q _ hq := absurd hq (hholds q)
  held q hq := absurd hq (hholds q)
  unreplaced _ _ := hreplaced
  taken h := absurd h hreplaced

theorem inOrder_of_claimed (hclaim : .claimed ∈ c.shared.events)
    (hordered : NothingAfterClaim c.shared.events) (honce : c.shared.events.count .replaced ≤ 1)
    (hfree : Free c) (hone : ∀ q, (c.locals q).holds = true → q = p)
    (hheld : (c.locals p).holds = true → c.shared.status = .PROCESSING)
    (hunreplaced : c.locals p = .holding ∨ c.locals p = .releasing →
      .replaced ∉ c.shared.events)
    (htaken : .replaced ∈ c.shared.events →
      c.shared.status = .PROCESSING ∨ c.shared.status = .RETRIED) : InOrder c where
  ordered := hordered
  once := honce
  unclaimed q hq := absurd hq (hfree q)
  one_holder q r hq hr := (hone q hq).trans (hone r hr).symm
  held q hq := by
    obtain rfl := hone q hq
    exact ⟨hclaim, hheld hq⟩
  unreplaced q hq := by
    have hholds : (c.locals q).holds = true := by
      rcases hq with hq | hq <;> rw [hq] <;> rfl
    obtain rfl := hone q hholds
    exact hunreplaced hq
  taken h := ⟨hclaim, htaken h⟩

end Cases

section Steps

variable [DecidableEq π] {c : Config π Phase Desk} {p : π} {ph : Phase} {d : Desk}

def moved (c : Config π Phase Desk) (p : π) (ph : Phase) (d : Desk) : Config π Phase Desk :=
  ⟨d, Function.update c.locals p ph⟩

theorem moved_self : (moved c p ph d).locals p = ph := by
  simp only [moved, Function.update_self]

theorem moved_other {q : π} (hq : q ≠ p) : (moved c p ph d).locals q = c.locals q := by
  simp only [moved, Function.update_of_ne hq]

theorem forall_moved {P : Phase → Prop} (h : ∀ q, P (c.locals q)) (hph : P ph) (q : π) :
    P ((moved c p ph d).locals q) := by
  by_cases hq : q = p
  · rw [hq, moved_self]
    exact hph
  · rw [moved_other hq]
    exact h q

theorem InOrder.leave (h : InOrder c) : InOrder (moved c p .over c.shared) := by
  have hlocals : ∀ q, (moved c p .over c.shared).locals q = .over ∨
      (moved c p .over c.shared).locals q = c.locals q := by
    intro q
    by_cases hq : q = p
    · exact .inl (hq ▸ moved_self)
    · exact .inr (moved_other hq)
  have hsame : ∀ {q} {P : Phase → Prop}, ¬ P .over →
      P ((moved c p .over c.shared).locals q) → P (c.locals q) := by
    intro q P hover hq
    rcases hlocals q with hover' | hsame
    · rw [hover'] at hq
      exact absurd hq hover
    · rwa [hsame] at hq
  have hholds : ∀ q, ((moved c p .over c.shared).locals q).holds = true →
      (c.locals q).holds = true :=
    fun q hq => hsame (P := fun ph => ph.holds = true) Bool.false_ne_true hq
  exact
    { ordered := h.ordered
      once := h.once
      unclaimed := fun q hq => h.unclaimed q (hsame (P := (· = .busy)) nofun hq)
      one_holder := fun q r hq hr => h.one_holder q r (hholds q hq) (hholds r hr)
      held := fun q hq => h.held q (hholds q hq)
      unreplaced := fun q hq => h.unreplaced q
        (hsame (P := fun ph => ph = .holding ∨ ph = .releasing) nofun hq)
      taken := h.taken }

theorem InOrder.work (h : InOrder c) (hp : c.locals p = .busy) (hph : ph = .busy ∨ ph = .over)
    (hevents : d.events = c.shared.events ∨ d.events = c.shared.events ++ [.delivered])
    (hstatus : d.status ≠ .RETRIED) : InOrder (moved c p ph d) := by
  have hclaim := (h.unclaimed p hp).1
  have hsame : ∀ e, e ≠ .delivered → e ∉ c.shared.events → e ∉ d.events := by
    intro e he hmem
    rcases hevents with hevents | hevents <;> rw [hevents]
    · exact hmem
    · rw [List.mem_append, List.mem_singleton]
      exact not_or.mpr ⟨hmem, he⟩
  refine inOrder_of_unclaimed (hsame _ nofun hclaim) (hsame _ nofun (h.not_replaced hclaim)) ?_
    fun _ _ => hstatus
  refine forall_moved (P := fun ph => ph.holds ≠ true) (h.not_holds hclaim) ?_
  rcases hph with rfl | rfl <;> exact Bool.false_ne_true

theorem InOrder.begin (h : InOrder c) (hclaim : .claimed ∉ c.shared.events) :
    InOrder (moved c p .busy { c.shared with status := .PROCESSING }) := by
  refine inOrder_of_unclaimed hclaim (h.not_replaced hclaim) ?_ fun _ _ => nofun
  exact forall_moved (P := fun ph => ph.holds ≠ true) (h.not_holds hclaim) Bool.false_ne_true

theorem InOrder.claim (h : InOrder c) (hfree : Free c) (hfailed : c.shared.status = .FAILED) :
    InOrder (moved c p .holding ⟨.PROCESSING, c.shared.events ++ [.claimed]⟩) := by
  have hholds : ∀ q, (c.locals q).holds ≠ true := by
    intro q hq
    rw [(h.held q hq).2] at hfailed
    cases hfailed
  have hunreplaced : .replaced ∉ c.shared.events ++ [.claimed] := by
    intro hmem
    have hmem : .replaced ∈ c.shared.events := by simpa using hmem
    rcases (h.taken hmem).2 with hstatus | hstatus
    · rw [hstatus] at hfailed
      cases hfailed
    · rw [hstatus] at hfailed
      cases hfailed
  refine inOrder_of_claimed (p := p) (List.mem_append.mpr (.inr (List.mem_singleton.mpr rfl)))
    (nothingAfterClaim_concat h.ordered fun _ => nofun) ?_
    (forall_moved (P := (· ≠ .busy)) hfree nofun) ?_ (fun _ => rfl) (fun _ => hunreplaced)
    (fun hmem => absurd hmem hunreplaced)
  · exact (List.count_eq_zero_of_not_mem hunreplaced).le.trans (Nat.zero_le 1)
  · intro q hq
    by_contra hne
    rw [moved_other hne] at hq
    exact hholds q hq

theorem InOrder.holder (h : InOrder c) (hp : (c.locals p).holds = true) (hph : ph ≠ .busy)
    (hevents : d.events = c.shared.events ∨
      d.events = c.shared.events ++ [.replaced] ∧ c.locals p = .holding)
    (hheld : ph.holds = true → d.status = .PROCESSING)
    (hunreplaced : ph = .holding ∨ ph = .releasing → .replaced ∉ d.events)
    (htaken : .replaced ∈ d.events → d.status = .PROCESSING ∨ d.status = .RETRIED) :
    InOrder (moved c p ph d) := by
  have hclaim := (h.held p hp).1
  have hordered : NothingAfterClaim d.events := by
    rcases hevents with hevents | ⟨hevents, -⟩ <;> rw [hevents]
    · exact h.ordered
    · exact nothingAfterClaim_concat h.ordered fun _ => nofun
  have honce : d.events.count .replaced ≤ 1 := by
    rcases hevents with hevents | ⟨hevents, hholding⟩ <;> rw [hevents]
    · exact h.once
    · rw [List.count_append, List.count_eq_zero_of_not_mem (h.unreplaced p (.inl hholding)),
        Nat.zero_add]
      exact List.count_le_length
  refine inOrder_of_claimed (p := p) ?_ hordered honce
    (forall_moved (P := (· ≠ .busy)) (h.free hp) hph) ?_ ?_ ?_ htaken
  · rcases hevents with hevents | ⟨hevents, -⟩ <;> simp only [moved, hevents]
    · exact hclaim
    · exact List.mem_append.mpr (.inl hclaim)
  · intro q hq
    by_contra hne
    rw [moved_other hne] at hq
    exact hne (h.one_holder q p hq hp)
  · rw [moved_self]
    exact hheld
  · rw [moved_self]
    exact hunreplaced

theorem InOrder.moves (h : InOrder c) (hmoves : Moves (Free c) (c.locals p) c.shared ph d) :
    InOrder (moved c p ph d) := by
  obtain ⟨⟨status, events⟩, locals⟩ := c
  change Moves _ (locals p) ⟨status, events⟩ ph d at hmoves
  generalize hph : locals p = ph₀ at hmoves
  cases hmoves with
  | stay =>
    have hsame : Function.update locals p ph = locals := by rw [← hph, Function.update_eq_self]
    rw [moved, hsame]
    exact h
  | leave => exact h.leave
  | begin _ hclaim hopen => exact h.begin hclaim
  | deliver => exact h.work hph (.inl rfl) (.inr rfl) (h.unclaimed p hph).2
  | succeed => exact h.work hph (.inr rfl) (.inl rfl) nofun
  | commit _ _ hph' => exact h.work hph hph' (.inr rfl) nofun
  | giveUp _ status' hstatus hopen =>
    exact h.work hph (.inr rfl) (.inl rfl) fun hretried => hstatus (.inr hretried)
  | claim _ hfree hfailed => exact h.claim hfree hfailed
  | throw =>
    have hholds : (locals p).holds = true := by rw [hph]; rfl
    exact h.holder hholds nofun (.inl rfl) (fun _ => (h.held p hholds).2)
      (fun _ => h.unreplaced p (.inl hph)) fun hmem => (h.taken hmem).2
  | replace =>
    have hholds : (locals p).holds = true := by rw [hph]; rfl
    exact h.holder hholds nofun (.inr ⟨rfl, hph⟩) (fun _ => (h.held p hholds).2)
      (fun hnext => by rcases hnext with hnext | hnext <;> cases hnext)
      fun _ => .inl (h.held p hholds).2
  | release =>
    have hholds : (locals p).holds = true := by rw [hph]; rfl
    exact h.holder hholds nofun (.inl rfl) (fun hnext => nomatch hnext)
      (fun hnext => by rcases hnext with hnext | hnext <;> cases hnext)
      fun hmem => absurd hmem (h.unreplaced p (.inr hph))
  | retire =>
    have hholds : (locals p).holds = true := by rw [hph]; rfl
    exact h.holder hholds nofun (.inl rfl) (fun hnext => nomatch hnext)
      (fun hnext => by rcases hnext with hnext | hnext <;> cases hnext) fun _ => .inr rfl

omit [DecidableEq π] in
theorem InOrder.final (h : InOrder c) (hmoves : Moves (Free c) (c.locals p) c.shared ph d)
    (hfinal : IsFinal c.shared.status) : d.status = c.shared.status := by
  obtain ⟨⟨status, events⟩, locals⟩ := c
  have hopen : ∀ s, ¬ IsFinal s → status ≠ s := fun s hs hsame => hs (hsame ▸ hfinal)
  have hheld : (locals p).holds = true → False := fun hholds =>
    hopen .PROCESSING (by decide) (h.held p hholds).2
  have hsucceeded : locals p = .busy → status = .SUCCEEDED := fun hbusy =>
    hfinal.resolve_right (h.unclaimed p hbusy).2
  change Moves _ (locals p) ⟨status, events⟩ ph d at hmoves
  generalize hph : locals p = ph₀ at hmoves
  cases hmoves with
  | stay | leave | deliver | throw | replace => rfl
  | begin _ hclaim hnot => exact absurd hfinal hnot
  | succeed | commit => exact (hsucceeded hph).symm
  | giveUp _ _ hstatus hnot => exact absurd (hsucceeded hph) hnot
  | claim _ hfree hfailed => exact absurd hfailed (hopen .FAILED (by decide))
  | release | retire => exact (hheld (by rw [hph]; rfl)).elim

end Steps

end Towerdesk.Delivery.Handover
