import EventNotifier.Data

/-!
# Goroutines over unbuffered channels

The hub and the RabbitMQ publisher are both loops, started by `Run`, that `select` over
unbuffered channels while producers block in a send until a loop receives it. This module
holds what the two models share.

- `takeSend`: a receive on a channel takes the oldest send blocked on it, the Go runtime
  serving a channel's blocked senders first come, first served. `takeSend_eq_some` says where
  that send stood, and `filter_of_takeSend` that every channel keeps its sends in order.
- `runSteps`: the state after a list of actions, each of which must be possible in turn.
  `runSteps_invariant` lifts a property that every step keeps, read together with the actions
  taken so far, to every run.
- `filterMap_set_perm`: a loop changing what it holds changes the messages the loops hold by
  the message it drops and the one it takes only.
-/

set_option autoImplicit false

namespace EventNotifier

/-! ## The oldest blocked send -/

section Channel

variable {α β : Type} [DecidableEq β]

/-- The oldest send blocked on `ch`, where `chan` gives the channel of a send, and the other
blocked sends in order. -/
def takeSend (chan : α → β) (ch : β) : List α → Option (α × List α)
  | [] => none
  | m :: ms =>
      if chan m = ch then some (m, ms) else (takeSend chan ch ms).map fun p => (p.1, m :: p.2)

variable {chan : α → β} {ch : β} {l rest : List α} {m : α}

/-- The send a loop takes from `ch` is the first one blocked on `ch`. -/
theorem takeSend_eq_some (h : takeSend chan ch l = some (m, rest)) :
    ∃ pre post, l = pre ++ m :: post ∧ rest = pre ++ post ∧ chan m = ch ∧
      ∀ x ∈ pre, chan x ≠ ch := by
  induction l generalizing rest with
  | nil => cases h
  | cons x l ih =>
      unfold takeSend at h
      split at h
      · obtain ⟨rfl, rfl⟩ := Prod.mk.inj (Option.some.inj h)
        exact ⟨[], _, rfl, rfl, ‹_›, by simp⟩
      · obtain ⟨⟨m', rest'⟩, hp, he⟩ := Option.map_eq_some'.1 h
        obtain ⟨rfl, rfl⟩ := Prod.mk.inj he
        obtain ⟨pre, post, rfl, rfl, hm, hpre⟩ := ih hp
        exact ⟨x :: pre, post, rfl, rfl, hm, List.forall_mem_cons.2 ⟨‹_›, hpre⟩⟩

theorem perm_of_takeSend (h : takeSend chan ch l = some (m, rest)) : l.Perm (m :: rest) := by
  obtain ⟨pre, post, rfl, rfl, -, -⟩ := takeSend_eq_some h
  exact List.perm_middle

/-- Taking the first send blocked on `ch` keeps every channel's sends in order. -/
theorem filter_of_takeSend (h : takeSend chan ch l = some (m, rest)) (ch' : β) :
    l.filter (chan · = ch') = (m :: rest).filter (chan · = ch') := by
  obtain ⟨pre, post, rfl, rfl, hm, hpre⟩ := takeSend_eq_some h
  by_cases hc : ch = ch'
  · subst hc
    have hnil : pre.filter (chan · = ch) = [] :=
      List.filter_eq_nil_iff.2 fun x hx => by simpa using hpre x hx
    simp [List.filter_append, List.filter_cons, hm, hnil]
  · have hm' : chan m ≠ ch' := hm ▸ hc
    simp [List.filter_append, List.filter_cons, hm']

end Channel

/-! ## Runs -/

section Run

variable {σ α : Type} (step : σ → α → Option σ)

/-- The state after the actions `tr`, when each of them is possible in turn. -/
def runSteps : σ → List α → Option σ
  | s, [] => some s
  | s, a :: tr => (step s a).bind fun s' => runSteps s' tr

variable {step} {s s' : σ}

theorem runSteps_cons {a : α} {tr : List α} :
    runSteps step s (a :: tr) = some s' ↔
      ∃ s₁, step s a = some s₁ ∧ runSteps step s₁ tr = some s' := by
  simp [runSteps, Option.bind_eq_some]

theorem runSteps_append {tr tr' : List α} :
    runSteps step s (tr ++ tr') = some s' ↔
      ∃ s₁, runSteps step s tr = some s₁ ∧ runSteps step s₁ tr' = some s' := by
  induction tr generalizing s with
  | nil => simp [runSteps]
  | cons a tr ih =>
      simp only [List.cons_append, runSteps_cons, ih]
      constructor
      · rintro ⟨s₂, h₂, s₁, h₁, h⟩
        exact ⟨s₁, ⟨s₂, h₂, h₁⟩, h⟩
      · rintro ⟨s₁, ⟨s₂, h₂, h₁⟩, h⟩
        exact ⟨s₂, h₂, s₁, h₁, h⟩

/-- A property of a state and of the actions taken so far that every possible step keeps, and
that holds before any action, holds after every run. -/
theorem runSteps_invariant (Inv : List α → σ → Prop)
    (hstep : ∀ done t a t', step t a = some t' → Inv done t → Inv (done ++ [a]) t')
    {tr : List α} (h : runSteps step s tr = some s') (hs : Inv [] s) : Inv tr s' := by
  suffices ∀ done tr t, runSteps step t tr = some s' → Inv done t → Inv (done ++ tr) s' from
    this [] tr s h hs
  intro done tr
  induction tr generalizing done with
  | nil =>
      intro t h ht
      cases h
      simpa using ht
  | cons a tr ih =>
      intro t h ht
      obtain ⟨t₁, h₁, h₂⟩ := runSteps_cons.1 h
      simpa using ih (done ++ [a]) t₁ h₂ (hstep done t a t₁ h₁ ht)

end Run

/-! ## What the loops hold -/

section Held

variable {γ δ : Type} {l : List γ} {i : Nat}

/-- Entry `i` of `l` changing from `y` to `x` changes the values `f` reads off the entries by
`f y` out and `f x` in. -/
theorem filterMap_set_perm [DecidableEq δ] (f : γ → Option δ) (x : γ) {y : γ}
    (h : l[i]? = some y) :
    ((l.set i x).filterMap f ++ (f y).toList).Perm (l.filterMap f ++ (f x).toList) := by
  obtain ⟨hlt, hl⟩ := List.getElem?_eq_some_iff.1 h
  obtain ⟨l₁, l₂, h₁, -, h₂⟩ := @List.exists_of_set _ i x _ hlt
  rw [h₂, h₁, hl, List.perm_iff_count]
  intro z
  simp only [List.filterMap_append, List.filterMap_cons]
  cases f x <;> cases f y <;> simp [List.count_cons]
  omega

@[simp] theorem filterMap_singleton (f : γ → Option δ) (x : γ) : [x].filterMap f = (f x).toList := by
  cases h : f x <;> simp [List.filterMap_cons, h]

/-- A list of at most one entry that has an entry at `i` is that entry alone. -/
theorem eq_singleton_of_getElem? {x : γ} (hl : l.length ≤ 1) (hi : l[i]? = some x) : l = [x] ∧ i = 0 := by
  obtain ⟨hlt, rfl⟩ := List.getElem?_eq_some_iff.1 hi
  obtain ⟨y, rfl⟩ := List.length_eq_one.1 (by omega : l.length = 1)
  obtain rfl : i = 0 := by simpa using hlt
  exact ⟨rfl, rfl⟩

end Held

end EventNotifier
