import Mathlib.Data.List.Forall2

namespace UnifiedRil.Library.Pairing

variable {α β : Type*} {R : α → β → Prop} {l : List α} {l' : List β}

theorem forall₂_set (h : List.Forall₂ R l l') (i : Nat) {a : α} {b : β} (hab : R a b) :
    List.Forall₂ R (l.set i a) (l'.set i b) := by
  induction h generalizing i with
  | nil => exact .nil
  | cons hcd hrest ih =>
      cases i with
      | zero => exact .cons hab hrest
      | succ i => exact .cons hcd (ih i)

theorem forall₂_set_right (h : List.Forall₂ R l l') (i : Nat) {b : β}
    (hb : ∀ a, l[i]? = some a → R a b) : List.Forall₂ R l (l'.set i b) := by
  induction h generalizing i with
  | nil => exact .nil
  | cons hcd hrest ih =>
      cases i with
      | zero => exact .cons (hb _ rfl) hrest
      | succ i => exact .cons hcd (ih i hb)

theorem forall₂_eraseIdx (h : List.Forall₂ R l l') (i : Nat) :
    List.Forall₂ R (l.eraseIdx i) (l'.eraseIdx i) := by
  induction h generalizing i with
  | nil => exact .nil
  | cons hcd hrest ih =>
      cases i with
      | zero => exact hrest
      | succ i => exact .cons hcd (ih i)

theorem exists_of_forall₂ (h : List.Forall₂ R l l') {i : Nat} {a : α} (ha : l[i]? = some a) :
    ∃ b, l'[i]? = some b := by
  obtain ⟨hlt, -⟩ := List.getElem?_eq_some_iff.mp ha
  rw [h.length_eq] at hlt
  exact ⟨l'[i], List.getElem?_eq_getElem hlt⟩

theorem rel_of_forall₂ (h : List.Forall₂ R l l') {i : Nat} {a : α} {b : β}
    (ha : l[i]? = some a) (hb : l'[i]? = some b) : R a b := by
  induction h generalizing i with
  | nil => simp at ha
  | cons hcd hrest ih =>
      cases i with
      | zero =>
          obtain rfl := Option.some.inj ha
          obtain rfl := Option.some.inj hb
          exact hcd
      | succ i => exact ih ha hb

theorem exists_of_mem_right (h : List.Forall₂ R l l') {b : β} (hb : b ∈ l') :
    ∃ (i : Nat) (a : α), l[i]? = some a ∧ l'[i]? = some b ∧ R a b := by
  obtain ⟨i, hi⟩ := List.getElem?_of_mem hb
  have hlt : i < l.length := by
    rw [h.length_eq]
    exact (List.getElem?_eq_some_iff.mp hi).1
  have ha := List.getElem?_eq_getElem hlt
  exact ⟨i, l[i], ha, hi, rel_of_forall₂ h ha hi⟩

theorem forall₂_imp {R' : α → β → Prop} (h : List.Forall₂ R l l')
    (himp : ∀ (i : Nat) a b, l[i]? = some a → l'[i]? = some b → R a b → R' a b) :
    List.Forall₂ R' l l' := by
  induction h with
  | nil => exact .nil
  | cons hab hrest ih =>
      exact .cons (himp 0 _ _ rfl rfl hab) (ih fun i a b ha hb => himp (i + 1) a b ha hb)

end UnifiedRil.Library.Pairing
