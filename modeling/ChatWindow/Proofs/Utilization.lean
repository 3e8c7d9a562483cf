import ChatWindow.Run
import ChatWindow.Proofs.Number.Rounding

/-!
# Reports that can be logged

The entry of a report shows how full the window is, as the quotient of two whole numbers, and such a
quotient may be too large for a double. It is not if it is less than halfway from the largest double
to the next power of two, so that every report of a selection that fits has an entry. Nothing else
keeps a report from having one.
-/

namespace ChatWindow

theorem Value.quotient_int_cases (m n : Int) :
    (∃ x, (int m).quotient (.int n) = .ok x) ∨
      (int m).quotient (.int n) = .error (.badNumber .quotientTooLarge) ∧
        ¬m.natAbs < (pow2 54 - 1) * pow2 970 * n.natAbs := by
  have hoperands : operands "/" (int m) (.int n) = .ok (.int m, .int n) := rfl
  rw [quotient, hoperands]
  simp only [bind, Except.bind]
  cases hx : Binary64.ofFraction? (decide (m < 0) != decide (n < 0)) m.natAbs n.natAbs with
  | some x => exact .inl ⟨x, rfl⟩
  | none =>
    refine .inr ⟨rfl, fun h => ?_⟩
    obtain ⟨x, hsome⟩ :=
      Binary64.exists_ofFraction? (decide (m < 0) != decide (n < 0)) h
    rw [hx] at hsome
    cases hsome

namespace Report

variable {r : Report}

def InRange (r : Report) : Prop :=
  0 < r.windowSize → r.finalTokens.natAbs < (pow2 54 - 1) * pow2 970 * r.windowSize.natAbs

theorem inRange_of_le (h : r.finalTokens.natAbs ≤ r.windowSize.natAbs) : r.InRange := by
  intro hpos
  have hone : 1 < (pow2 54 - 1) * pow2 970 :=
    Nat.lt_of_lt_of_le (by decide) (Nat.le_mul_of_pos_right (pow2 54 - 1) (pow2_pos 970))
  calc r.finalTokens.natAbs ≤ 1 * r.windowSize.natAbs := by rwa [Nat.one_mul]
    _ < (pow2 54 - 1) * pow2 970 * r.windowSize.natAbs :=
      Nat.mul_lt_mul_of_pos_right hone (Int.natAbs_pos.mpr (Int.ne_of_gt hpos))

theorem utilization_cases (r : Report) :
    (∃ x, r.sheet.utilization = .ok x) ∨
      r.sheet.utilization = .error (.badNumber .quotientTooLarge) ∧ ¬r.InRange := by
  have hlow : r.sheet.windowSize.atMost 0 = .ok (some (compare r.windowSize 0) == some .lt ||
      some (compare r.windowSize 0) == some .eq) := rfl
  rw [Sheet.utilization, hlow]
  cases hcompare : compare r.windowSize 0 with
  | lt => exact .inl ⟨_, rfl⟩
  | eq => exact .inl ⟨_, rfl⟩
  | gt =>
    have hpos : 0 < r.windowSize := Int.compare_eq_gt.mp hcompare
    refine (Value.quotient_int_cases r.finalTokens r.windowSize).imp_right fun h => ⟨h.1, ?_⟩
    exact fun hrange => h.2 (hrange hpos)

/-- A report has an entry unless its quotient is out of range, and then that is what stops it. -/
theorem entry_cases (r : Report) :
    (∃ entry, (Event.selected r).entry = .ok entry) ∨
      (Event.selected r).entry = .error (.badNumber .quotientTooLarge) ∧ ¬r.InRange := by
  change (∃ entry, r.sheet.entry reportLogger = .ok entry) ∨
    r.sheet.entry reportLogger = .error (.badNumber .quotientTooLarge) ∧ ¬r.InRange
  rw [Sheet.entry]
  obtain ⟨x, hx⟩ | ⟨herror, hrange⟩ := r.utilization_cases
  · obtain ⟨fields, hfields⟩ : ∃ fields, r.sheet.toFields = .ok fields := by
      rw [Sheet.toFields, hx]
      exact ⟨_, rfl⟩
    rw [hx, hfields]
    exact .inl ⟨_, rfl⟩
  · rw [herror]
    exact .inr ⟨rfl, hrange⟩

theorem exists_entry (h : r.finalTokens.natAbs ≤ r.windowSize.natAbs) :
    ∃ entry, (Event.selected r).entry = .ok entry :=
  r.entry_cases.resolve_right fun hbeyond => hbeyond.2 (inRange_of_le h)

end Report

end ChatWindow
