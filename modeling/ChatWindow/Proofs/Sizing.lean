import ChatWindow.Proofs.Window

/-!
# Windows of whole numbers

Where the amounts of a request are whole numbers, truth values among them, its window is that of the
same request in whole numbers alone. There a prompt below the limit of the model is never given less
than its own length, unless the multiples of the quantum end before the limit does. A caller's
window that does not count makes no difference.
-/

namespace ChatWindow

theorem le_roundUp (value : Int) {quantum : Int} (h : 0 < quantum) :
    value ≤ roundUp value quantum := by
  have hle : roundDown (-value) quantum ≤ -value := roundDown_le (-value) h
  rw [roundDown] at hle
  rw [roundUp, Int.neg_mul]
  omega

theorem roundDown_of_dvd {value quantum : Int} (h : quantum ∣ value) :
    roundDown value quantum = value := by
  rw [roundDown, Int.fdiv_mul_cancel_of_dvd h]

namespace Amount

open Quantity

variable {a b : Amount} {m n : Int}

theorem whole?_ofInt (n : Int) : (ofInt n : Amount).whole? = some n := rfl

theorem whole?_ite (p : Bool) (ha : a.whole? = some m) (hb : b.whole? = some n) :
    (if p = true then a else b).whole? = some (if p = true then m else n) := by
  cases p with
  | true => exact ha
  | false => exact hb

theorem whole?_add (ha : a.whole? = some m) (hb : b.whole? = some n) :
    (add a b).whole? = some (m + n) := by
  change (combine (· + ·) (· + ·) a b).whole? = _
  rw [combine, ha, hb]
  rfl

theorem whole?_sub (ha : a.whole? = some m) (hb : b.whole? = some n) :
    (sub a b).whole? = some (m - n) := by
  change (combine (· - ·) (· - ·) a b).whole? = _
  rw [combine, ha, hb]
  rfl

theorem order_whole (ha : a.whole? = some m) (hb : b.whole? = some n) :
    order a b = order (int m) (int n) := by
  rw [order, ha, hb]
  rfl

theorem less_whole (ha : a.whole? = some m) (hb : b.whole? = some n) :
    less a b = decide (m < n) := by
  rw [← less_int]
  change (order a b == some .lt) = (order (int m) (int n) == some .lt)
  rw [order_whole ha hb]

theorem lessEq_whole (ha : a.whole? = some m) (hb : b.whole? = some n) :
    lessEq a b = decide (m ≤ n) := by
  change (order a b == some .lt || order a b == some .eq) = decide (m ≤ n)
  rw [order_whole ha hb]
  change (some (compare m n) == some Ordering.lt || some (compare m n) == some .eq) = decide (m ≤ n)
  rcases Int.lt_trichotomy m n with hlt | rfl | hgt
  · rw [Int.compare_eq_lt.mpr hlt, decide_eq_true (Int.le_of_lt hlt)]
    rfl
  · rw [Int.compare_eq_eq.mpr rfl, decide_eq_true (Int.le_refl m)]
    rfl
  · rw [Int.compare_eq_gt.mpr hgt, decide_eq_false (Int.not_le.mpr hgt)]
    rfl

theorem whole?_larger (ha : a.whole? = some m) (hb : b.whole? = some n) :
    (larger a b).whole? = some (larger m n) := by
  rw [larger, larger, less_whole ha hb]
  exact whole?_ite _ hb ha

theorem whole?_smaller (ha : a.whole? = some m) (hb : b.whole? = some n) :
    (smaller a b).whole? = some (smaller m n) := by
  rw [smaller, smaller, less_whole hb ha]
  exact whole?_ite _ hb ha

theorem whole?_roundUp (ha : a.whole? = some m) (q : Nat) :
    (Quantity.roundUp a q).whole? = some (Quantity.roundUp m q) := by
  change (roundWith _ _ a q).whole? = some (ChatWindow.roundUp m q)
  rw [roundWith, ha]
  rfl

theorem whole?_roundDown (ha : a.whole? = some m) (q : Nat) :
    (Quantity.roundDown a q).whole? = some (Quantity.roundDown m q) := by
  change (roundWith _ _ a q).whole? = some (ChatWindow.roundDown m q)
  rw [roundWith, ha]
  rfl

end Amount

structure WindowRequest.Whole (r : WindowRequest Amount) (w : WindowRequest Int) : Prop where
  length : r.length.whole? = some w.length
  budget : r.budget.whole? = some w.budget
  limit : r.limit.whole? = some w.limit
  caller : r.caller.map Amount.whole? = w.caller.map some

namespace Window

open Quantity

variable (c : Config) {r : WindowRequest Amount} {w : WindowRequest Int}

section
variable (h : r.Whole w)
include h

theorem whole?_room : (room c r).whole? = some (room c w) := by
  have hleft := Amount.whole?_larger (Amount.whole?_sub h.limit h.length)
    (Amount.whole?_ofInt c.floor)
  rw [room, room, Amount.less_whole (Amount.whole?_ofInt 0) h.budget]
  exact Amount.whole?_ite _ h.budget hleft

theorem honoured_whole : (honoured c r).map Amount.whole? = (honoured c w).map some := by
  have hcaller := h.caller
  rw [honoured, honoured]
  cases hr : r.caller with
  | none =>
    rw [hr] at hcaller
    rw [Option.map_eq_none_iff.mp hcaller.symm]
    rfl
  | some a =>
    rw [hr] at hcaller
    obtain ⟨n, hw, hn⟩ := Option.map_eq_some_iff.mp hcaller.symm
    rw [hw]
    dsimp only
    rw [Amount.less_whole (Amount.whole?_ofInt 0) hn.symm]
    change _ = Option.map some (if (decide (0 < n) && c.callerWindow == .upperBound) = true then
      some n else none)
    cases decide (0 < n) && c.callerWindow == .upperBound with
    | true => exact congrArg some hn.symm
    | false => rfl

theorem whole?_wanted : (wanted c r).whole? = some (wanted c w) := by
  have htokens := Amount.whole?_roundUp (Amount.whole?_add h.length (whole?_room c h)) c.quantum
  have hhonoured := honoured_whole c h
  rw [wanted, wanted]
  cases hr : honoured c r with
  | none =>
    rw [hr] at hhonoured
    rw [Option.map_eq_none_iff.mp hhonoured.symm]
    exact htokens
  | some a =>
    rw [hr] at hhonoured
    obtain ⟨n, hw, hn⟩ := Option.map_eq_some_iff.mp hhonoured.symm
    rw [hw]
    exact Amount.whole?_smaller htokens (Amount.whole?_roundUp hn.symm c.quantum)

theorem exceeds_whole : exceeds r = exceeds w := Amount.lessEq_whole h.limit h.length

end

theorem whole?_capacity {limit : Amount} {n : Int} (h : limit.whole? = some n) :
    (capacity c limit).whole? = some (capacity c n) := by
  have hdown := Amount.whole?_roundDown h c.quantum
  rw [capacity, capacity, Amount.less_whole hdown (Amount.whole?_ofInt c.floor)]
  exact Amount.whole?_ite _ h hdown

theorem whole?_fitted (h : r.Whole w) :
    (fitted c r).tokens.whole? = some (fitted c w).tokens := by
  have hbelow := Amount.whole?_smaller
    (Amount.whole?_larger (whole?_wanted c h) (Amount.whole?_ofInt c.floor))
    (whole?_capacity c h.limit)
  rw [fitted, fitted, exceeds_whole h]
  exact Amount.whole?_ite _ h.limit hbelow

theorem whole_fitted (h : r.Whole w) : (fitted c r).whole = .ok (fitted c w).tokens := by
  rw [Window.whole, whole?_fitted c h]

theorem fitted_of_ignored {α : Type} [Quantity α] (h : c.callerWindow = .ignore)
    (r : WindowRequest α) : fitted c r = fitted c { r with caller := none } := by
  have hnone : honoured c r = none := by
    rw [honoured, h]
    cases r.caller <;> simp
  have hwanted : wanted c r = wanted c { r with caller := none } := by
    rw [wanted, wanted, hnone]
    rfl
  rw [fitted, fitted, hwanted]
  rfl

theorem capacity_eq_limit {limit : Int}
    (h : (c.quantum : Int) ∣ limit ∨ roundDown limit c.quantum < c.floor) :
    capacity c limit = limit := by
  change (if decide (roundDown limit c.quantum < (c.floor : Int)) = true then limit
    else roundDown limit c.quantum) = limit
  by_cases hlow : roundDown limit c.quantum < (c.floor : Int)
  · rw [if_pos (decide_eq_true hlow)]
  · rw [if_neg (by simpa using hlow)]
    exact roundDown_of_dvd (h.resolve_right hlow)

theorem room_nonneg {w : WindowRequest Int} : 0 ≤ room c w := by
  change 0 ≤ if decide (0 < w.budget) = true then w.budget
    else larger (w.limit - w.length) (c.floor : Int)
  by_cases hpos : 0 < w.budget
  · rw [if_pos (decide_eq_true hpos)]
    omega
  · rw [if_neg (by simpa using hpos), larger_int]
    omega

theorem length_le_tokens_fitted {w : WindowRequest Int} (hcaller : honoured c w = none)
    (hlimit : (c.quantum : Int) ∣ w.limit ∨ roundDown w.limit c.quantum < c.floor)
    (hbelow : w.length < w.limit) : w.length ≤ (fitted c w).tokens := by
  have hquantum : (0 : Int) < c.quantum := Int.natCast_pos.mpr c.quantum_pos
  have hroom := room_nonneg c (w := w)
  have hwanted : w.length ≤ wanted c w := by
    have hround := le_roundUp (w.length + room c w) hquantum
    rw [wanted, hcaller]
    change w.length ≤ roundUp (w.length + room c w) c.quantum
    omega
  have hexceeds : exceeds w = false := decide_eq_false (Int.not_le.mpr hbelow)
  rw [fitted, hexceeds, capacity_eq_limit c hlimit]
  change w.length ≤ smaller (larger (wanted c w) (c.floor : Int)) w.limit
  rw [smaller_int, larger_int]
  omega

end Window

end ChatWindow
