import ChatWindow.Proofs.LeastWindow

/-!
# Windows that grow with the prompt

Of two requests to one model the one that wants no less, for a prompt that is no shorter, gets a
window that is no smaller. No step of the sizing turns that around: not the rounding, not the floor
and the capacity, and not the prompt that reaches the limit, since no other window is larger than
the limit. A longer prompt or a larger budget never wants less, whoever asks for a window.
-/

namespace ChatWindow

theorem roundUp_mono {a b quantum : Int} (hquantum : 0 < quantum) (h : a ≤ b) :
    roundUp a quantum ≤ roundUp b quantum :=
  roundUp_le hquantum (dvd_roundUp b quantum) (Int.le_trans h (le_roundUp b hquantum))

namespace Window

variable (c : Config) {r s : WindowRequest Int}

theorem tokens_fitted_le_limit (r : WindowRequest Int) : (fitted c r).tokens ≤ r.limit := by
  rw [tokens_fitted]
  split
  · exact Int.le_refl _
  · exact Int.le_trans (Int.min_le_right _ _) (capacity_le c r.limit)

theorem tokens_fitted_mono (hlimit : r.limit = s.limit) (hlength : r.length ≤ s.length)
    (hwanted : wanted c r ≤ wanted c s) : (fitted c r).tokens ≤ (fitted c s).tokens := by
  by_cases hreach : s.limit ≤ s.length
  · have hbound := tokens_fitted_le_limit c r
    rw [hlimit] at hbound
    rw [tokens_fitted c s, if_pos hreach]
    exact hbound
  · have hbelow : ¬r.limit ≤ r.length := by omega
    rw [tokens_fitted c r, tokens_fitted c s, if_neg hreach, if_neg hbelow, hlimit]
    omega

theorem honoured_congr (h : r.caller = s.caller) : honoured c r = honoured c s := by
  rw [honoured, honoured, h]

theorem wanted_mono_of_room (hcaller : r.caller = s.caller)
    (hroom : r.length + room c r ≤ s.length + room c s) : wanted c r ≤ wanted c s := by
  have hround := roundUp_mono (Int.natCast_pos.mpr c.quantum_pos) hroom
  rw [wanted_eq, wanted_eq, honoured_congr c hcaller]
  cases honoured c s with
  | none => exact hround
  | some n =>
    exact Int.le_min.mpr ⟨Int.le_trans (Int.min_le_left _ _) hround, Int.min_le_right _ _⟩

theorem length_add_room_mono (hlimit : r.limit = s.limit) (hlength : r.length ≤ s.length)
    (hbudget : r.budget = s.budget ∨ 0 < r.budget ∧ r.budget ≤ s.budget) :
    r.length + room c r ≤ s.length + room c s := by
  rw [room_eq, room_eq, hlimit]
  by_cases hpos : 0 < r.budget
  · have hpos' : 0 < s.budget := by omega
    rw [if_pos hpos, if_pos hpos']
    omega
  · have hnone : ¬0 < s.budget := by omega
    rw [if_neg hpos, if_neg hnone]
    omega

/-- A longer prompt, with the same budget or with a larger one where both are above zero, gets a
window that is no smaller. -/
theorem sizeRequest_grows (c : Config) {r s : WindowRequest Int} (requestId requestId' : Value)
    (p p' : Progress) (hpos : 0 < r.limit) (hlimit : r.limit = s.limit)
    (hcaller : r.caller = s.caller) (hnonneg : 0 ≤ r.length) (hlength : r.length ≤ s.length)
    (hbudget : r.budget = s.budget ∨ 0 < r.budget ∧ r.budget ≤ s.budget) :
    ∃ v w q q', (sizeRequest c r requestId).run p = (.ok (amounts v), q) ∧
      (sizeRequest c s requestId').run p' = (.ok (amounts w), q') ∧ v.tokens ≤ w.tokens := by
  obtain ⟨q, hrun⟩ := run_sizeRequest c requestId p hpos hnonneg
  obtain ⟨q', hrun'⟩ := run_sizeRequest c requestId' p' (hlimit ▸ hpos)
    (Int.le_trans hnonneg hlength)
  have hroom := length_add_room_mono c hlimit hlength hbudget
  exact ⟨_, _, q, q', hrun, hrun',
    tokens_fitted_mono c hlimit hlength (wanted_mono_of_room c hcaller hroom)⟩

theorem sizeRequest_grows_fiveThousand :
    (0 : Int) < 5000 ∧ (0 : Int) ≤ 4999 ∧ (4999 : Int) ≤ 5000 ∧
      ∃ v w q q', (sizeRequest Config.standard ⟨4999, -1, 5000, some 7⟩ .null).run {} =
          (.ok (amounts v), q) ∧
        (sizeRequest Config.standard ⟨5000, -1, 5000, some 7⟩ .null).run {} =
          (.ok (amounts w), q') ∧
        v.tokens = 4096 ∧ w.tokens = 5000 ∧ v.tokens ≤ w.tokens := by
  obtain ⟨v, w, q, q', hrun, hrun', hle⟩ := sizeRequest_grows Config.standard
    (r := ⟨4999, -1, 5000, some 7⟩) (s := ⟨5000, -1, 5000, some 7⟩) .null .null {} {} (by decide)
    rfl rfl (by decide) (by decide) (.inl rfl)
  have hv : v = ⟨4096, 1024, false⟩ :=
    amounts_injective (Except.ok.inj (congrArg Prod.fst hrun).symm)
  have hw : w = ⟨5000, 1024, true⟩ :=
    amounts_injective (Except.ok.inj (congrArg Prod.fst hrun').symm)
  refine ⟨by decide, by decide, by decide, v, w, q, q', hrun, hrun', ?_, ?_, hle⟩
  · rw [hv]
  · rw [hw]

end Window

end ChatWindow
