import ChatWindow.Proofs.KeptWhole

/-!
# Windows in whole quanta

Where some multiple of the quantum lies between the floor and the limit of the model, the window of
a prompt below the limit lies between them too. What a request wants is rounded to the quantum, and
so is what the model can hold. The floor is not: a window that is raised to it is a multiple of the
quantum only if the floor is one.
-/

namespace ChatWindow

theorem dvd_roundUp (value quantum : Int) : quantum ∣ roundUp value quantum :=
  Int.dvd_mul_left _ _

theorem dvd_roundDown (value quantum : Int) : quantum ∣ roundDown value quantum :=
  Int.dvd_mul_left _ _

theorem le_roundDown {k value quantum : Int} (hquantum : 0 < quantum) (hk : quantum ∣ k)
    (h : k ≤ value) : k ≤ roundDown value quantum := by
  obtain ⟨m, rfl⟩ := hk
  have hm : m ≤ Int.fdiv value quantum := by
    rw [Int.fdiv_eq_ediv_of_nonneg _ (Int.le_of_lt hquantum)]
    exact Int.le_ediv_of_mul_le hquantum (by rwa [Int.mul_comm])
  rw [roundDown, Int.mul_comm]
  exact Int.mul_le_mul_of_nonneg_right hm (Int.le_of_lt hquantum)

theorem dvd_min {k m n : Int} (hm : k ∣ m) (hn : k ∣ n) : k ∣ min m n := by
  rcases Int.le_total m n with h | h
  · rwa [Int.min_eq_left h]
  · rwa [Int.min_eq_right h]

namespace Window

open Quantity

section
variable (c : Config) (r : WindowRequest Int)

theorem wanted_eq : wanted c r = match honoured c r with
    | none => roundUp (r.length + room c r) c.quantum
    | some n => min (roundUp (r.length + room c r) c.quantum) (roundUp n c.quantum) := by
  rw [wanted]
  cases honoured c r with
  | none => rfl
  | some n =>
    dsimp only
    rw [smaller_int]
    rfl

theorem capacity_eq (limit : Int) : capacity c limit =
    if roundDown limit c.quantum < c.floor then limit else roundDown limit c.quantum := by
  change (if decide (roundDown limit c.quantum < (c.floor : Int)) = true then limit
    else roundDown limit c.quantum) = _
  simp only [decide_eq_true_eq]

theorem exceeds_iff : exceeds r = true ↔ r.limit ≤ r.length := decide_eq_true_iff

theorem tokens_fitted : (fitted c r).tokens =
    if r.limit ≤ r.length then r.limit
    else min (max (wanted c r) c.floor) (capacity c r.limit) := by
  change (if exceeds r = true then r.limit
    else smaller (larger (wanted c r) (c.floor : Int)) (capacity c r.limit)) = _
  rw [smaller_int, larger_int]
  simp only [exceeds_iff]

end

variable (c : Config) {w : WindowRequest Int}

theorem dvd_wanted (w : WindowRequest Int) : (c.quantum : Int) ∣ wanted c w := by
  have hroom := dvd_roundUp (w.length + room c w) c.quantum
  rw [wanted_eq]
  cases honoured c w with
  | none => exact hroom
  | some n => exact dvd_min hroom (dvd_roundUp n c.quantum)

theorem capacity_eq_roundDown {limit : Int} (h : (c.floor : Int) ≤ roundDown limit c.quantum) :
    capacity c limit = roundDown limit c.quantum := by
  rw [capacity_eq, if_neg (Int.not_lt.mpr h)]

theorem tokens_fitted_of_below (hbelow : w.length < w.limit)
    (hroom : (c.floor : Int) ≤ roundDown w.limit c.quantum) :
    (fitted c w).tokens = min (max (wanted c w) c.floor) (roundDown w.limit c.quantum) := by
  rw [tokens_fitted, if_neg (Int.not_le.mpr hbelow), capacity_eq_roundDown c hroom]

theorem dvd_tokens_fitted_iff (hbelow : w.length < w.limit)
    (hroom : (c.floor : Int) ≤ roundDown w.limit c.quantum) :
    (c.quantum : Int) ∣ (fitted c w).tokens ↔
      (c.quantum : Int) ∣ c.floor ∨ (c.floor : Int) ≤ wanted c w := by
  rw [tokens_fitted_of_below c hbelow hroom]
  by_cases hwanted : (c.floor : Int) ≤ wanted c w
  · rw [Int.max_eq_left hwanted]
    exact iff_of_true (dvd_min (dvd_wanted c w) (dvd_roundDown _ _)) (.inr hwanted)
  · rw [Int.max_eq_right (Int.le_of_lt (Int.not_le.mp hwanted)), Int.min_eq_left hroom]
    simp [hwanted]

theorem optionalAmount_ofInt? (caller : Option Int) :
    ∃ asked, optionalAmount (.ofInt? caller) = .ok asked ∧
      asked.map Amount.whole? = caller.map some := by
  cases caller with
  | none => exact ⟨none, rfl, rfl⟩
  | some n => exact ⟨some (.int n), rfl, rfl⟩

/-- The window of a prompt below the limit lies between the floor and the limit. It is a multiple of
the quantum exactly if the floor is such a multiple or is no more than what the request wants, and
otherwise it is the floor. -/
theorem sizeValues_aligned (c : Config) (length budget limit : Int) (caller : Option Int)
    (requestId : Value) (p : Progress) (hlength : 0 ≤ length) (hbelow : length < limit)
    (hroom : ∃ k : Int, (c.quantum : Int) ∣ k ∧ c.floor ≤ k ∧ k ≤ limit) :
    ∃ w q, ∃ n : Int,
      (sizeValues c (.int length) (.int budget) (.int limit) (.ofInt? caller) requestId).run p =
        (.ok w, q) ∧
      w.tokens = .int n ∧ c.floor ≤ n ∧ n ≤ limit ∧
      ((c.quantum : Int) ∣ n ↔
        (c.quantum : Int) ∣ c.floor ∨ (c.floor : Int) ≤ wanted c ⟨length, budget, limit, caller⟩) ∧
      (¬(c.quantum : Int) ∣ n → n = c.floor) := by
  have hquantum : (0 : Int) < c.quantum := Int.natCast_pos.mpr c.quantum_pos
  obtain ⟨limit, rfl⟩ := Int.eq_ofNat_of_zero_le (Int.le_trans hlength (Int.le_of_lt hbelow))
  have hlimit : 0 < limit := by omega
  obtain ⟨k, hk, hfloor, hle⟩ := hroom
  have hroom : (c.floor : Int) ≤ roundDown limit c.quantum :=
    Int.le_trans hfloor (le_roundDown hquantum hk hle)
  obtain ⟨asked, hasked, hcaller⟩ := optionalAmount_ofInt? caller
  have hbudget : (Value.int budget).int? = some budget := rfl
  obtain ⟨a, ha, hread⟩ := exists_read hlength (Int.natCast_pos.mpr hlimit) hbudget hasked
  obtain ⟨q, hrun⟩ := exists_run_sizeValues c requestId hread p
  have hwhole : WindowRequest.Whole ⟨.int length, a, .int limit, asked⟩
      ⟨length, budget, limit, caller⟩ := ⟨rfl, ha, rfl, hcaller⟩
  have htokens := tokens_of_whole_fitted c rfl hlimit (whole_fitted c hwhole)
  have hvalue := tokens_fitted_of_below c (w := ⟨length, budget, limit, caller⟩) hbelow hroom
  have hdvd := dvd_tokens_fitted_iff c (w := ⟨length, budget, limit, caller⟩) hbelow hroom
  refine ⟨_, q, _, hrun, htokens.1, ?_, htokens.2.2, hdvd, ?_⟩
  · rw [hvalue]
    exact Int.le_min.mpr ⟨Int.le_max_right _ _, hroom⟩
  · intro hmultiple
    have hlow : ¬(c.floor : Int) ≤ wanted c ⟨length, budget, limit, caller⟩ :=
      fun h => hmultiple (hdvd.mpr (.inr h))
    rw [hvalue, Int.max_eq_right (Int.le_of_lt (Int.not_le.mp hlow)), Int.min_eq_left hroom]

def thousands : Config := { Config.standard with
  quantum := 1000
  quantum_pos := by decide }

theorem sizeValues_aligned_thousands :
    (∃ k : Int, (thousands.quantum : Int) ∣ k ∧ thousands.floor ≤ k ∧ k ≤ 8192) ∧
      (∃ w q, (sizeValues thousands (.int 1) (.int 100) (.int 8192) .null .null).run {} =
        (.ok w, q) ∧ w.tokens = .int 1024) ∧
      ∃ w q, ∃ n : Int,
        (sizeValues thousands (.int 2100) (.int 100) (.int 8192) .null .null).run {} =
          (.ok w, q) ∧ w.tokens = .int n ∧ 1024 ≤ n ∧ n ≤ 8192 ∧ (1000 : Int) ∣ n := by
  have hroom : ∃ k : Int, (thousands.quantum : Int) ∣ k ∧ thousands.floor ≤ k ∧ k ≤ 8192 :=
    ⟨2000, by decide, by decide, by decide⟩
  obtain ⟨w, q, n, hrun, htokens, -, -, hdvd, hfloor⟩ :=
    sizeValues_aligned thousands 1 100 8192 none .null {} (by decide) (by decide) hroom
  obtain ⟨w', q', n', hrun', htokens', hlow, hhigh, hdvd', -⟩ :=
    sizeValues_aligned thousands 2100 100 8192 none .null {} (by decide) (by decide) hroom
  refine ⟨hroom, ⟨w, q, hrun, ?_⟩, w', q', n', hrun', htokens', hlow, hhigh,
    hdvd'.mpr (.inr (by decide))⟩
  rw [htokens, hfloor (fun h => absurd (hdvd.mp h) (by decide))]
  rfl

/-- Some multiple of the quantum lies between the floor and the limit, and the window is none. -/
theorem sizeValues_unaligned_thousands :
    (∃ k : Int, (thousands.quantum : Int) ∣ k ∧ thousands.floor ≤ k ∧ k ≤ 8192) ∧
      ∃ w q, ∃ n : Int,
        (sizeValues thousands (.int 1) (.int 100) (.int 8192) .null .null).run {} = (.ok w, q) ∧
          w.tokens = .int n ∧ ¬(thousands.quantum : Int) ∣ n :=
  ⟨⟨2000, by decide, by decide, by decide⟩, _, _, 1024, rfl, rfl, by decide⟩

end Window

end ChatWindow
