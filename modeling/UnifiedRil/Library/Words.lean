import Mathlib.Data.List.TakeWhile

namespace UnifiedRil.Library.Words

variable {α : Type}

theorem takeWhile_append_stop {p : α → Bool} {body rest : List α} (hbody : ∀ c ∈ body, p c = true)
    (hstop : ∀ c, rest.head? = some c → p c = false) : (body ++ rest).takeWhile p = body := by
  rw [List.takeWhile_append_of_pos hbody]
  cases rest with
  | nil => exact List.append_nil body
  | cons c rest =>
      rw [List.takeWhile_cons_of_neg (by simp [hstop c rfl])]
      exact List.append_nil body

/-- The words of a text. -/
inductive Spaced (separator : α) : List (List α) → List α → Prop
  | nil (k : Nat) : Spaced separator [] (List.replicate k separator)
  | cons (k : Nat) {word : List α} {words : List (List α)} {rest : List α} :
      Spaced separator words rest → (∀ c, rest.head? = some c → c = separator) →
      Spaced separator (word :: words) (List.replicate k separator ++ (word ++ rest))

theorem Spaced.tail {separator : α} {words : List (List α)} {text : List α}
    (h : Spaced separator words text) (hwords : ∀ word ∈ words, word.head? ≠ some separator)
    (hne : [] ∉ words) (hhead : text.head? = some separator) :
    Spaced separator words text.tail := by
  cases h with
  | nil k =>
      cases k with
      | zero => cases hhead
      | succ k => exact .nil k
  | @cons k word words rest hrest hstop =>
      cases k with
      | zero =>
          cases word with
          | nil => exact absurd List.mem_cons_self hne
          | cons c word => exact absurd hhead (hwords (c :: word) List.mem_cons_self)
      | succ k => exact .cons k hrest hstop

end UnifiedRil.Library.Words
