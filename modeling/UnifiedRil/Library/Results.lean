import Mathlib.Logic.Basic

namespace UnifiedRil.Library.Results

variable {ε α β : Type}

/-- The postcondition holds whenever a result is returned. -/
def Ensures (x : Except ε α) (post : α → Prop) : Prop := ∀ a, x = .ok a → post a

namespace Ensures

theorem ok {post : α → Prop} {a : α} (h : post a) : Ensures (.ok a : Except ε α) post := by
  rintro _ ⟨⟩
  exact h

theorem pure {post : α → Prop} {a : α} (h : post a) :
    Ensures (Pure.pure a : Except ε α) post := ok h

theorem error {post : α → Prop} (e : ε) : Ensures (.error e) post := by
  rintro _ ⟨⟩

theorem bind {x : Except ε α} {f : α → Except ε β} {post : β → Prop}
    (h : ∀ a, Ensures (f a) post) : Ensures (x >>= f) post := by
  intro b hb
  cases x with
  | error e => cases hb
  | ok a => exact h a b hb

theorem bind_of {x : Except ε α} {f : α → Except ε β} {mid : α → Prop} {post : β → Prop}
    (hx : Ensures x mid) (hf : ∀ a, mid a → Ensures (f a) post) : Ensures (x >>= f) post := by
  intro b hb
  cases x with
  | error e => cases hb
  | ok a => exact hf a (hx a rfl) b hb

theorem bind_eq {x : Except ε α} {f : α → Except ε β} {post : β → Prop}
    (h : ∀ a, x = .ok a → Ensures (f a) post) : Ensures (x >>= f) post :=
  bind_of (fun _ ha => ha) h

theorem ite {p : Prop} [Decidable p] {x y : Except ε α} {post : α → Prop}
    (hx : p → Ensures x post) (hy : ¬ p → Ensures y post) :
    Ensures (if p then x else y) post := by
  split
  · exact hx ‹_›
  · exact hy ‹_›

end Ensures

@[simp] theorem ok_bind (a : α) (f : α → Except ε β) : (.ok a : Except ε α) >>= f = f a := rfl

theorem bind_congr_ok {x : Except ε α} {f g : α → Except ε β}
    (h : ∀ a, x = .ok a → f a = g a) : x >>= f = x >>= g := by
  cases x with
  | error e => rfl
  | ok a => exact h a rfl

/-- A result is returned. -/
def Succeeds (x : Except ε α) : Prop := ∃ a, x = .ok a

@[simp] theorem succeeds_ok (a : α) : Succeeds (.ok a : Except ε α) := ⟨a, rfl⟩

@[simp] theorem succeeds_pure (a : α) : Succeeds (Pure.pure a : Except ε α) := ⟨a, rfl⟩

@[simp] theorem not_succeeds_error (e : ε) : ¬ Succeeds (.error e : Except ε α) := nofun

theorem succeeds_of_isOk {x : Except ε α} (h : x.isOk = true) : Succeeds x := by
  cases x with
  | error e => cases h
  | ok a => exact succeeds_ok a

theorem succeeds_bind {x : Except ε α} {f : α → Except ε β} :
    Succeeds (x >>= f) ↔ ∃ a, x = .ok a ∧ Succeeds (f a) := by
  cases x with
  | error e => exact ⟨nofun, nofun⟩
  | ok a =>
      constructor
      · intro h
        exact ⟨a, rfl, h⟩
      · rintro ⟨_, ⟨⟩, h⟩
        exact h

theorem succeeds_bind_and {x : Except ε α} {f : α → Except ε β} {p : Prop}
    (h : ∀ a, x = .ok a → (Succeeds (f a) ↔ p)) : Succeeds (x >>= f) ↔ Succeeds x ∧ p := by
  rw [succeeds_bind]
  constructor
  · rintro ⟨a, ha, hf⟩
    exact ⟨⟨a, ha⟩, (h a ha).mp hf⟩
  · rintro ⟨⟨a, ha⟩, hp⟩
    exact ⟨a, ha, (h a ha).mpr hp⟩

theorem succeeds_bind_of {x : Except ε α} {f : α → Except ε β} (h : ∀ a, Succeeds (f a)) :
    Succeeds (x >>= f) ↔ Succeeds x := by
  rw [succeeds_bind_and fun a _ => iff_true_intro (h a), and_true]

theorem succeeds_ite {p : Prop} [Decidable p] {x y : Except ε α} :
    Succeeds (if p then x else y) ↔ (p → Succeeds x) ∧ (¬ p → Succeeds y) := by
  split
  · rename_i hp
    exact ⟨fun h => ⟨fun _ => h, fun hn => absurd hp hn⟩, fun h => h.1 hp⟩
  · rename_i hp
    exact ⟨fun h => ⟨fun hn => absurd hn hp, fun _ => h⟩, fun h => h.2 hp⟩

/-- No error but one. -/
def FailsOnlyWith (e : ε) (x : Except ε α) : Prop := ∀ e', x = .error e' → e' = e

namespace FailsOnlyWith

variable {e : ε}

theorem ok (a : α) : FailsOnlyWith e (.ok a : Except ε α) := nofun

theorem error : FailsOnlyWith e (.error e : Except ε α) := by
  rintro _ ⟨⟩
  rfl

theorem bind {x : Except ε α} {f : α → Except ε β} (hx : FailsOnlyWith e x)
    (hf : ∀ a, FailsOnlyWith e (f a)) : FailsOnlyWith e (x >>= f) := by
  cases x with
  | error e' =>
      rintro _ ⟨⟩
      exact hx e' rfl
  | ok a => exact hf a

theorem ite {p : Prop} [Decidable p] {x y : Except ε α} (hx : FailsOnlyWith e x)
    (hy : FailsOnlyWith e y) : FailsOnlyWith e (if p then x else y) := by
  split
  · exact hx
  · exact hy

theorem ne_error_iff {x : Except ε α} (h : FailsOnlyWith e x) :
    x ≠ .error e ↔ Succeeds x := by
  cases x with
  | error e' =>
      obtain rfl := h e' rfl
      exact ⟨fun hne => absurd rfl hne, nofun⟩
  | ok a => exact ⟨fun _ => ⟨a, rfl⟩, nofun⟩

end FailsOnlyWith

end UnifiedRil.Library.Results
