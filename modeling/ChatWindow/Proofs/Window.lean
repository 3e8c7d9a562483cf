import ChatWindow.Window

/-!
# Bounds of windows

A request may carry amounts of any kind. Where the limit of the model is a whole number, as it is
for every model, the window is either a double or a whole number from one up to that limit. So a
window that selection takes never exceeds the model.
-/

namespace ChatWindow

theorem roundDown_le (value : Int) {quantum : Int} (h : 0 < quantum) :
    roundDown value quantum ≤ value := by
  rw [roundDown, Int.mul_comm]
  exact Int.mul_fdiv_self_le h

namespace Amount

open Quantity

theorem less_int (m n : Int) : less (int m) (int n) = decide (m < n) := by
  change (some (compare m n) == some Ordering.lt) = decide (m < n)
  by_cases h : m < n
  · simp [Int.compare_eq_lt.mpr h, h]
  · have hne : compare m n ≠ .lt := fun he => h (Int.compare_eq_lt.mp he)
    simp [h, hne]

theorem larger_int (m n : Int) : larger (int m) (int n) = int (max m n) := by
  rw [larger, less_int]
  by_cases h : m < n
  · simp [h, Int.max_eq_right (Int.le_of_lt h)]
  · simp [h, Int.max_eq_left (Int.not_lt.mp h)]

theorem smaller_int (m n : Int) : smaller (int m) (int n) = int (min m n) := by
  rw [smaller, less_int]
  by_cases h : n < m
  · simp [h, Int.min_eq_right (Int.le_of_lt h)]
  · simp [h, Int.min_eq_left (Int.not_lt.mp h)]

def IsNumber (a : Amount) : Prop := ∀ b, a ≠ bool b

theorem isNumber_roundUp (a : Amount) (q : Nat) : IsNumber (Quantity.roundUp a q) := by
  intro b
  change roundWith _ _ a q ≠ bool b
  rw [roundWith]
  cases a.whole? <;> simp

theorem isNumber_smaller {a b : Amount} (ha : IsNumber a) (hb : IsNumber b) :
    IsNumber (smaller a b) := by
  rw [smaller]
  split
  · exact hb
  · exact ha

theorem smaller_larger_cases {a : Amount} (ha : IsNumber a) (floor bound : Int)
    (hfloor : 1 ≤ floor) (hbound : 1 ≤ bound) :
    (∃ n, smaller (larger a (int floor)) (int bound) = int n ∧ 1 ≤ n ∧ n ≤ bound) ∨
      ∃ x, smaller (larger a (int floor)) (int bound) = real x := by
  have hwhole : ∀ m : Int, 1 ≤ m →
      ∃ n, smaller (int m) (int bound) = int n ∧ 1 ≤ n ∧ n ≤ bound :=
    fun m hm => ⟨min m bound, smaller_int m bound, by omega, by omega⟩
  cases a with
  | bool b => exact absurd rfl (ha b)
  | int m =>
    rw [larger_int]
    exact .inl (hwhole (max m floor) (by omega))
  | real x =>
    rw [larger]
    by_cases hx : less (real x) (int floor) = true
    · rw [if_pos hx]
      exact .inl (hwhole floor hfloor)
    -- What is no number is neither below the floor nor above the bound and stays as it is.
    · rw [if_neg hx, smaller]
      by_cases hb : less (int bound) (real x) = true
      · rw [if_pos hb]
        exact .inl ⟨bound, rfl, hbound, Int.le_refl _⟩
      · rw [if_neg hb]
        exact .inr ⟨x, rfl⟩

end Amount

namespace Window

open Quantity

variable (c : Config) {r : WindowRequest Amount} {limit : Nat}

theorem isNumber_wanted (r : WindowRequest Amount) : Amount.IsNumber (wanted c r) := by
  rw [wanted]
  cases honoured c r with
  | none => exact Amount.isNumber_roundUp _ _
  | some w =>
    exact Amount.isNumber_smaller (Amount.isNumber_roundUp _ _) (Amount.isNumber_roundUp _ _)

theorem capacity_int (hlimit : 0 < limit) :
    ∃ n, capacity c (.int limit) = Amount.int n ∧ 1 ≤ n ∧ n ≤ limit := by
  have hdown := roundDown_le limit (Int.natCast_pos.mpr c.quantum_pos)
  have hfloor := c.floor_pos
  change ∃ n, (if less (Amount.int (roundDown limit c.quantum)) (.int c.floor) then
    Amount.int limit else .int (roundDown limit c.quantum)) = Amount.int n ∧ _
  rw [Amount.less_int]
  by_cases h : roundDown limit c.quantum < c.floor
  · exact ⟨limit, by simp [h], by omega, Int.le_refl _⟩
  · exact ⟨roundDown limit c.quantum, by simp [h], by omega, hdown⟩

theorem tokens_fitted_cases (hr : r.limit = .int limit) (hlimit : 0 < limit) :
    (∃ n, (fitted c r).tokens = .int n ∧ 1 ≤ n ∧ n ≤ limit) ∨
      ∃ x, (fitted c r).tokens = .real x := by
  rw [fitted]
  dsimp only
  by_cases hexceeds : exceeds r = true
  · rw [if_pos hexceeds, hr]
    exact .inl ⟨limit, rfl, by omega, Int.le_refl _⟩
  · obtain ⟨bound, hcapacity, hpos, hle⟩ := capacity_int c hlimit
    have hfloor := c.floor_pos
    rw [if_neg hexceeds, hr, hcapacity]
    rcases Amount.smaller_larger_cases (isNumber_wanted c r) c.floor bound (by omega) hpos with
      ⟨n, hn, h1, hb⟩ | hx
    · exact .inl ⟨n, hn, h1, Int.le_trans hb hle⟩
    · exact .inr hx

theorem tokens_of_whole_fitted (hr : r.limit = .int limit) (hlimit : 0 < limit) {size : Int}
    (h : (fitted c r).whole = .ok size) :
    (fitted c r).tokens = .int size ∧ 1 ≤ size ∧ size ≤ limit := by
  rcases tokens_fitted_cases c hr hlimit with ⟨n, hn, h1, hle⟩ | ⟨x, hx⟩
  · rw [whole, hn] at h
    cases h
    exact ⟨hn, h1, hle⟩
  · rw [whole, hx] at h
    cases h

end Window

end ChatWindow
