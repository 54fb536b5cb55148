/-!
# The characters of numbers

A number is written in decimal digits, a negative one with a minus sign in front.  So what holds of
the digits and of the minus sign holds of every character of its text.
-/

namespace SignOut.Text

variable {p : Char → Prop}

theorem forall_mem_toString_nat (hdigit : ∀ c : Char, c.isDigit = true → p c) (n : Nat) :
    ∀ c ∈ (toString n).toList, p c := by
  rw [Nat.toString_eq_ofList_toDigits, String.toList_ofList]
  exact fun c hc => hdigit c (Nat.isDigit_of_mem_toDigits (by decide) (by decide) hc)

theorem forall_mem_toString_int (hdigit : ∀ c : Char, c.isDigit = true → p c) (hminus : p '-')
    (n : Int) : ∀ c ∈ (toString n).toList, p c := by
  cases n with
  | ofNat n => exact forall_mem_toString_nat hdigit n
  | negSucc n =>
      have hnegative : toString (Int.negSucc n) = "-" ++ toString (n + 1) := rfl
      rw [hnegative, String.toList_append]
      refine List.forall_mem_append.mpr ⟨?_, forall_mem_toString_nat hdigit (n + 1)⟩
      intro c hc
      rw [List.mem_singleton.mp hc]
      exact hminus

end SignOut.Text
