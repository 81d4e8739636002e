import Mathlib.Data.Set.Function

namespace UnifiedRil.Library.Registers

variable {α β : Type*}

inductive Access (α : Type*)
  | wrote (value : α)
  | got (value : α)
  deriving DecidableEq

def Access.value : Access α → α
  | .wrote value => value
  | .got value => value

def Access.map (f : α → β) : Access α → Access β
  | .wrote value => .wrote (f value)
  | .got value => .got (f value)

/-- What is read is what the register holds. -/
def IsRegister : α → List (Access α) → Prop
  | _, [] => True
  | _, .wrote value :: rest => IsRegister value rest
  | held, .got value :: rest => value = held ∧ IsRegister held rest

/-- A translation that keeps the values of a history apart makes a register of a
register only. -/
theorem isRegister_map_iff {f : α → β} {values : Set α} (hf : Set.InjOn f values) {held : α}
    (hheld : held ∈ values) {history : List (Access α)}
    (hvalues : ∀ access ∈ history, access.value ∈ values) :
    IsRegister (f held) (history.map (Access.map f)) ↔ IsRegister held history := by
  induction history generalizing held with
  | nil => exact Iff.rfl
  | cons access rest ih =>
      have hvalue := hvalues access List.mem_cons_self
      have hrest := fun access h => hvalues access (List.mem_cons_of_mem _ h)
      cases access with
      | wrote value => exact ih hvalue hrest
      | got value => exact and_congr (hf.eq_iff hvalue hheld) (ih hheld hrest)

end UnifiedRil.Library.Registers
