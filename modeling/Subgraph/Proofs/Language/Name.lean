import Subgraph.Language.Name

/-!
# Names and their characters

* A name is its text (`Name.text_injective`).
* What may begin a name may also stand later in one, and is no digit.
-/

namespace Subgraph

namespace Name

theorem text_injective {a b : Name} (same : a.text = b.text) : a = b := by
  cases a
  cases b
  cases same
  rfl

theorem isReserved_iff (name : Name) :
    name.isReserved = true ↔ "__".toList <+: name.text.toList := by
  rw [isReserved, List.isPrefixOf_iff_prefix]
  rfl

/-! ## Characters -/

theorem isContinue_of_isStart {c : Char} (start : isStart c = true) :
    isContinue c = true := by
  simp only [isStart, isContinue, Char.isAlphanum, Bool.or_eq_true] at start ⊢
  exact start.imp_left Or.inl

theorem isContinue_of_isDigit {c : Char} (digit : c.isDigit = true) :
    isContinue c = true := by
  simp only [isContinue, Char.isAlphanum, Bool.or_eq_true]
  exact Or.inl (Or.inr digit)

theorem le_toNat_of_isStart {c : Char} (start : isStart c = true) : 65 ≤ c.toNat := by
  rcases Bool.or_eq_true_iff.1 start with alpha | same
  · have letter : (c.isUpper || c.isLower) = true := alpha
    rcases Bool.or_eq_true_iff.1 letter with upper | lower
    · have bounds : 'A'.val ≤ c.val ∧ c.val ≤ 'Z'.val := of_decide_eq_true upper
      exact bounds.1
    · have bounds : (decide ('a'.val ≤ c.val) && decide (c.val ≤ 'z'.val)) = true := lower
      have least := of_decide_eq_true (Bool.and_eq_true_iff.1 bounds).1
      exact Nat.le_trans (by decide) least
  · rw [of_decide_eq_true same]
    decide

theorem isStart_eq_false_of_isDigit {c : Char} (digit : c.isDigit = true) :
    isStart c = false := by
  refine Bool.eq_false_iff.2 fun start => ?_
  have small : c.toNat ≤ 57 := (Char.isDigit_iff_toNat.1 digit).2
  have large := le_toNat_of_isStart start
  omega

theorem all_isContinue (name : Name) : name.text.toList.all isContinue = true := by
  have valid := name.valid
  generalize name.text.toList = cs at valid
  cases cs with
  | nil => cases valid
  | cons c rest =>
      simp only [isValid, Bool.and_eq_true] at valid
      simp only [List.all_cons, isContinue_of_isStart valid.1, valid.2, Bool.and_self]

end Name

end Subgraph
