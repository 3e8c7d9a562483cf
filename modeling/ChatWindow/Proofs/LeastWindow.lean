import ChatWindow.Proofs.Alignment
import Mathlib.Order.Bounds.Basic

/-!
# The least window that will do

A request in whole numbers is refused for its limit or its length, or it gets a window. A prompt
that reaches the limit gets all of the model. Below the limit, where the floor is a multiple of the
quantum and no caller counts, the window is the least multiple that holds the prompt, the room for
the response and the floor; where the model cannot hold that, it is the largest multiple that the
model can hold, or all of the model if that multiple is below the floor.
-/

namespace ChatWindow

theorem roundUp_le {k value quantum : Int} (hquantum : 0 < quantum) (hk : quantum ∣ k)
    (h : value ≤ k) : roundUp value quantum ≤ k := by
  have hdown : -k ≤ roundDown (-value) quantum :=
    le_roundDown hquantum (Int.dvd_neg.mpr hk) (Int.neg_le_neg h)
  rw [roundDown] at hdown
  rw [roundUp, Int.neg_mul]
  omega

theorem isLeast_max_roundUp {value floor quantum : Int} (hquantum : 0 < quantum)
    (hfloor : quantum ∣ floor) :
    IsLeast {k | quantum ∣ k ∧ value ≤ k ∧ floor ≤ k} (max (roundUp value quantum) floor) := by
  refine ⟨⟨?_, ?_, Int.le_max_right _ _⟩, ?_⟩
  · rcases Int.le_total (roundUp value quantum) floor with h | h
    · rwa [Int.max_eq_right h]
    · rw [Int.max_eq_left h]
      exact dvd_roundUp value quantum
  · exact Int.le_trans (le_roundUp value hquantum) (Int.le_max_left _ _)
  · rintro k ⟨hk, hvalue, hle⟩
    exact Int.max_le.mpr ⟨roundUp_le hquantum hk hvalue, hle⟩

theorem isGreatest_roundDown {value quantum : Int} (hquantum : 0 < quantum) :
    IsGreatest {k | quantum ∣ k ∧ k ≤ value} (roundDown value quantum) := by
  refine ⟨⟨dvd_roundDown value quantum, roundDown_le value hquantum⟩, ?_⟩
  rintro k ⟨hk, hle⟩
  exact le_roundDown hquantum hk hle

def WindowRequest.amounts (r : WindowRequest Int) : WindowRequest Amount where
  length := .int r.length
  budget := .int r.budget
  limit := .int r.limit
  caller := r.caller.map .int

theorem WindowRequest.whole_amounts (r : WindowRequest Int) : r.amounts.Whole r where
  length := rfl
  budget := rfl
  limit := rfl
  caller := by
    rw [amounts]
    cases r.caller <;> rfl

namespace Window

open Quantity

def amounts (w : Window Int) : Window Amount := ⟨.int w.tokens, .int w.responseBudget, w.exceeded⟩

theorem amounts_injective : Function.Injective amounts := by
  intro v w h
  cases v
  cases w
  cases h
  rfl

def sizeRequest (c : Config) (r : WindowRequest Int) (requestId : Value) : Run (Window Amount) :=
  sizeValues c (.int r.length) (.int r.budget) (.int r.limit) (.ofInt? r.caller) requestId

section
variable (c : Config) (r : WindowRequest Int)

theorem room_eq : room c r =
    if 0 < r.budget then r.budget else max (r.limit - r.length) c.floor := by
  change (if decide (0 < r.budget) = true then r.budget
    else larger (r.limit - r.length) (c.floor : Int)) = _
  rw [larger_int]
  simp only [decide_eq_true_eq]

theorem capacity_le (limit : Int) : capacity c limit ≤ limit := by
  have hdown := roundDown_le limit (Int.natCast_pos.mpr c.quantum_pos)
  rw [capacity_eq]
  split <;> omega

theorem honoured_eq_none_iff :
    honoured c r = none ↔ ∀ n, r.caller = some n → 0 < n → c.callerWindow = .ignore := by
  rw [honoured]
  cases r.caller with
  | none => simp
  | some n =>
    change (if (decide (0 < n) && c.callerWindow == .upperBound) = true then some n
      else none) = none ↔ _
    cases c.callerWindow <;> simp

theorem fitted_amounts (hlimit : 0 < r.limit) : fitted c r.amounts = (fitted c r).amounts := by
  obtain ⟨limit, hcast⟩ := Int.eq_ofNat_of_zero_le (Int.le_of_lt hlimit)
  have hamount : r.amounts.limit = Amount.int (limit : Int) := congrArg Amount.int hcast
  have htokens := tokens_of_whole_fitted c hamount (by omega) (whole_fitted c r.whole_amounts)
  have hroom : room c r.amounts = .int (room c r) := by
    change (if less (Amount.int 0) (.int r.budget) then Amount.int r.budget
      else larger (.int (r.limit - r.length)) (.int c.floor)) = _
    rw [Amount.less_int, Amount.larger_int, room_eq]
    by_cases hbudget : 0 < r.budget <;> simp [hbudget]
  have hexceeds : exceeds r.amounts = exceeds r := exceeds_whole r.whole_amounts
  rw [amounts, ← htokens.1]
  exact congr (congrArg (Window.mk _) hroom) hexceeds

end

section
variable (c : Config) {r : WindowRequest Int} (requestId : Value) (p : Progress)

theorem checkLimit_int (limit : Int) : checkLimit (Amount.int limit) =
    if limit ≤ 0 then .error (badLimit (.int limit)) else .ok () := by
  rw [checkLimit, Amount.lessEq_whole rfl (Amount.whole?_ofInt 0)]
  simp only [decide_eq_true_eq]
  rfl

theorem checkLength_int (length : Int) : checkLength (Amount.int length) =
    if length < 0 then .error (badLength (.int length)) else .ok () := by
  rw [checkLength, Amount.less_whole rfl (Amount.whole?_ofInt 0)]
  simp only [decide_eq_true_eq]
  rfl

theorem read_request (r : WindowRequest Int) :
    read (.int r.length) (.int r.budget) (.int r.limit) (.ofInt? r.caller) =
      if r.limit ≤ 0 then .error (badLimit (.int r.limit))
      else if r.length < 0 then .error (badLength (.int r.length))
      else .ok r.amounts := by
  change (do
    checkLimit (Amount.int r.limit)
    checkLength (Amount.int r.length)
    let caller ← optionalAmount (.ofInt? r.caller)
    return ({ r.amounts with caller } : WindowRequest Amount)) = _
  rw [checkLimit_int, checkLength_int]
  by_cases hlimit : r.limit ≤ 0
  · simp only [if_pos hlimit]
    rfl
  · by_cases hlength : r.length < 0
    · simp only [if_neg hlimit, if_pos hlength]
      rfl
    · simp only [if_neg hlimit, if_neg hlength, WindowRequest.amounts]
      cases r.caller <;> rfl

theorem run_sizeRequest (hlimit : 0 < r.limit) (hlength : 0 ≤ r.length) :
    ∃ q, (sizeRequest c r requestId).run p = (.ok (fitted c r).amounts, q) := by
  have hread := read_request r
  rw [if_neg (Int.not_le.mpr hlimit), if_neg (Int.not_lt.mpr hlength)] at hread
  rw [← fitted_amounts c r hlimit]
  exact exists_run_sizeValues c requestId hread p

theorem run_sizeRequest_of_limit (h : r.limit ≤ 0) :
    (sizeRequest c r requestId).run p = (.error (badLimit (.int r.limit)), p) := by
  rw [sizeRequest, sizeValues, Run.run_bind, Run.run_lift, read_request, if_pos h]

theorem run_sizeRequest_of_length (hlimit : 0 < r.limit) (h : r.length < 0) :
    (sizeRequest c r requestId).run p = (.error (badLength (.int r.length)), p) := by
  rw [sizeRequest, sizeValues, Run.run_bind, Run.run_lift, read_request,
    if_neg (Int.not_le.mpr hlimit), if_pos h]

end

section
variable {c : Config} {r : WindowRequest Int}

theorem tokens_fitted_of_uncapped (hbelow : r.length < r.limit) (hcaller : honoured c r = none) :
    (fitted c r).tokens =
      min (max (roundUp (r.length + room c r) c.quantum) c.floor) (capacity c r.limit) := by
  rw [tokens_fitted, if_neg (Int.not_le.mpr hbelow), wanted_eq, hcaller]

theorem length_add_room_le_or_eq (hbelow : r.length < r.limit) (hcaller : honoured c r = none)
    (hroom : (c.floor : Int) ≤ roundDown r.limit c.quantum) :
    r.length + room c r ≤ (fitted c r).tokens ∨
      (fitted c r).tokens = roundDown r.limit c.quantum := by
  have hround := le_roundUp (r.length + room c r) (Int.natCast_pos.mpr c.quantum_pos)
  rw [tokens_fitted_of_uncapped hbelow hcaller, capacity_eq_roundDown c hroom]
  omega

/-- The window of a prompt below the limit, told from the least multiple of the quantum that would
do and the largest one that the model can hold. -/
structure Least (c : Config) (r : WindowRequest Int) (w : Window Int) (least largest : Int) :
    Prop where
  isLeast : IsLeast {k : Int | (c.quantum : Int) ∣ k ∧ r.length + w.responseBudget ≤ k ∧
    (c.floor : Int) ≤ k} least
  isGreatest : IsGreatest {k : Int | (c.quantum : Int) ∣ k ∧ k ≤ r.limit} largest
  tokens : (c.floor : Int) ≤ largest → w.tokens = if largest < least then largest else least
  holds : (c.floor : Int) ≤ largest →
    r.length + w.responseBudget ≤ w.tokens ∨ w.tokens = largest
  small : largest < c.floor → w.tokens = min r.limit least

theorem least_fitted (hfloor : (c.quantum : Int) ∣ c.floor) (hbelow : r.length < r.limit)
    (hcaller : honoured c r = none) :
    Least c r (fitted c r) (max (roundUp (r.length + room c r) c.quantum) c.floor)
      (roundDown r.limit c.quantum) := by
  have hquantum : (0 : Int) < c.quantum := Int.natCast_pos.mpr c.quantum_pos
  have htokens := tokens_fitted_of_uncapped hbelow hcaller
  refine ⟨isLeast_max_roundUp hquantum hfloor, isGreatest_roundDown hquantum, ?_,
    length_add_room_le_or_eq hbelow hcaller, ?_⟩
  · intro hroom
    rw [htokens, capacity_eq_roundDown c hroom]
    split <;> omega
  · intro hlow
    rw [htokens, capacity_eq, if_pos hlow]
    exact Int.min_comm _ _

end

/-- A request is refused for its limit or its length, and gets a window otherwise. The window is
exceeded exactly where the prompt reaches the limit, and then it is all of the model. Below the
limit, with a floor in whole quanta and no caller that counts, it is the least multiple that will
do, as far as the model can hold it. -/
theorem sizeRequest_least (c : Config) (r : WindowRequest Int) (requestId : Value) (p : Progress) :
    (r.limit ≤ 0 →
      (sizeRequest c r requestId).run p = (.error (badLimit (.int r.limit)), p)) ∧
    (0 < r.limit → r.length < 0 →
      (sizeRequest c r requestId).run p = (.error (badLength (.int r.length)), p)) ∧
    (0 < r.limit → 0 ≤ r.length →
      ∃ (w : Window Int) (q : Progress), (sizeRequest c r requestId).run p = (.ok w.amounts, q) ∧
        (w.exceeded = true ↔ r.limit ≤ r.length) ∧
        (r.limit ≤ r.length → w.tokens = r.limit) ∧
        w.responseBudget =
          (if 0 < r.budget then r.budget else max (r.limit - r.length) c.floor) ∧
        ((c.quantum : Int) ∣ c.floor → r.length < r.limit →
          (∀ n, r.caller = some n → 0 < n → c.callerWindow = .ignore) →
          ∃ least largest, Least c r w least largest)) := by
  refine ⟨run_sizeRequest_of_limit c requestId p, run_sizeRequest_of_length c requestId p, ?_⟩
  intro hlimit hlength
  obtain ⟨q, hrun⟩ := run_sizeRequest c requestId p hlimit hlength
  refine ⟨fitted c r, q, hrun, exceeds_iff r, ?_, room_eq c r, ?_⟩
  · intro hreach
    rw [tokens_fitted, if_pos hreach]
  · intro hfloor hbelow hcaller
    exact ⟨_, _, least_fitted hfloor hbelow ((honoured_eq_none_iff c r).mpr hcaller)⟩

theorem sizeRequest_least_fiveThousand :
    (0 : Int) < 5000 ∧ (0 : Int) ≤ 3500 ∧ (3500 : Int) < 5000 ∧
      (Config.standard.quantum : Int) ∣ Config.standard.floor ∧
      ∃ w q, (sizeRequest Config.standard ⟨3500, 1000, 5000, some 4000⟩ .null).run {} =
          (.ok (amounts w), q) ∧
        w.exceeded = false ∧ w.responseBudget = 1000 ∧ w.tokens = 4096 := by
  have hfloor : (Config.standard.quantum : Int) ∣ Config.standard.floor := by decide
  obtain ⟨w, q, hrun, hexceeded, -, hroom, hleast⟩ :=
    (sizeRequest_least Config.standard ⟨3500, 1000, 5000, some 4000⟩ .null {}).2.2 (by decide)
      (by decide)
  obtain ⟨least, largest, h⟩ := hleast hfloor (by decide) fun _ _ _ => rfl
  have hwanted : w.responseBudget = 1000 := hroom
  obtain rfl : least = 5120 := by
    refine h.isLeast.unique ⟨⟨by decide, ?_, by decide⟩, ?_⟩
    · rw [hwanted]
      decide
    · rintro k ⟨⟨m, rfl⟩, hk, -⟩
      rw [hwanted] at hk
      change (3500 : Int) + 1000 ≤ 1024 * m at hk
      change (5120 : Int) ≤ 1024 * m
      omega
  obtain rfl : largest = 4096 := by
    refine h.isGreatest.unique ⟨⟨by decide, by decide⟩, ?_⟩
    rintro k ⟨⟨m, rfl⟩, hk⟩
    change 1024 * m ≤ (5000 : Int) at hk
    change 1024 * m ≤ (4096 : Int)
    omega
  refine ⟨by decide, by decide, by decide, hfloor, w, q, hrun, ?_, hwanted, h.tokens (by decide)⟩
  rw [← Bool.not_eq_true, hexceeded]
  decide

end Window

end ChatWindow
