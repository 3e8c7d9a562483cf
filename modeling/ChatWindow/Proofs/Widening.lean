import ChatWindow.Proofs.Longest

/-!
# Wider windows

Two selections from one conversation with the same costs and windows of different size. The wider
window keeps every message that the narrower one keeps, and needs a marker only where the narrower
one needs it too. Nothing is asked of the costs for that: both searches go through the same
candidates in the same order, and the wider window is the last to stop.
-/

namespace ChatWindow

theorem some_mem_sources_iff {c : Candidate} {i : Nat} :
    some i ∈ c.map Slot.position? ↔ Slot.kept i ∈ c :=
  List.mem_map_of_injective position?_injective (a := .kept i)

theorem none_mem_sources_iff {c : Candidate} :
    none ∈ c.map Slot.position? ↔ Slot.inserted ∈ c :=
  List.mem_map_of_injective position?_injective (a := .inserted)

structure Choice.Within (c d : Choice) : Prop where
  kept : ∀ i, Slot.kept i ∈ c.slots → Slot.kept i ∈ d.slots
  inserted : Slot.inserted ∈ d.slots → Slot.inserted ∈ c.slots
  markerInserted : d.markerInserted = true → c.markerInserted = true

theorem Choice.Within.refl (c : Choice) : c.Within c := ⟨fun _ h => h, id, id⟩

namespace Layout

variable {l : Layout} {narrow wide : Int} {cost : Candidate → Int} {c d : Choice}

theorem keepingLatest_sublist (l : Layout) {j k : Nat} (h : j ≤ k) :
    (l.keepingLatest j).Sublist (l.keepingLatest k) := by
  have hrtake : (l.intermediates.rtake j).Sublist (l.intermediates.rtake k) :=
    List.drop_sublist_drop_left _ (by omega)
  rw [keepingLatest, keepingLatest, withSuffix_eq, withSuffix_eq]
  exact (((hrtake.append_right _).map Slot.kept).cons_cons _).append_left _

theorem inserted_mem_keepingLatest_iff (l : Layout) (k : Nat) :
    Slot.inserted ∈ l.keepingLatest k ↔ l.marker = none := by
  rw [keepingLatest, withSuffix_eq, List.mem_append, List.mem_cons]
  have hhead := inserted_notMem_keeping (l.system ++ [l.first])
  have htail := inserted_notMem_keeping (l.intermediates.rtake k ++ l.latest.toList)
  cases hm : l.marker <;> simp [hhead, htail, skip, hm]

theorem inserted_notMem_full (l : Layout) : Slot.inserted ∉ l.full := by
  rw [full_eq]
  exact inserted_notMem_keeping _

theorem kept_mem_full {k i : Nat} (h : Slot.kept i ∈ l.keepingLatest k) :
    Slot.kept i ∈ l.full := by
  have hordered : ∀ ps : List Nat, ps ⊆ l.order → Slot.kept i ∈ keeping ps →
      Slot.kept i ∈ l.full := by
    intro ps hps hi
    rw [full_eq]
    exact List.map_subset Slot.kept hps hi
  have hrtake : l.intermediates.rtake k ⊆ l.intermediates := List.drop_subset _ _
  rw [keepingLatest, withSuffix_eq] at h
  rcases List.mem_append.mp h with hhead | h
  · exact hordered _ (by simp [order]) hhead
  rcases List.mem_cons.mp h with hskip | hrest
  · cases hm : l.marker with
    | none =>
      rw [skip, hm] at hskip
      cases hskip
    | some j =>
      rw [skip, hm] at hskip
      refine hordered [j] (by simp [order, hm]) ?_
      rw [hskip]
      exact List.mem_singleton_self _
  · refine hordered _ (fun j hj => ?_) hrest
    rcases List.mem_append.mp hj with hj | hj
    · simp [order, hrtake hj]
    · simp only [order, List.mem_append, List.mem_cons, hj, or_true]

theorem Longest.mono {s t : Nat} (hle : narrow ≤ wide) (h : l.Longest narrow cost s)
    (h' : l.Longest wide cost t) : s ≤ t := by
  by_contra hlt
  have hbound := h.le
  have hfit := h.fits (t + 1) (by omega) (by omega)
  have hstop := h'.stops (by omega)
  omega

theorem within_everything (h : l.Chosen narrow cost c) : c.Within ⟨l.full, false⟩ := by
  refine ⟨fun i hi => ?_, fun hi => absurd hi l.inserted_notMem_full, fun hi => by cases hi⟩
  rcases h.slots_cases with ⟨hslots, -⟩ | ⟨s, hslots, -⟩
  · rwa [hslots] at hi
  · rw [hslots] at hi
    exact kept_mem_full hi

theorem within_keepingLatest {j k : Nat} (h : j ≤ k)
    (hc : c.slots = l.keepingLatest j) (hd : d.slots = l.keepingLatest k)
    (hinserted : d.markerInserted = c.markerInserted) : c.Within d where
  kept i hi := by
    rw [hc] at hi
    rw [hd]
    exact (l.keepingLatest_sublist h).subset hi
  inserted hi := by
    rw [hd, inserted_mem_keepingLatest_iff] at hi
    rw [hc, inserted_mem_keepingLatest_iff]
    exact hi
  markerInserted hi := by rwa [← hinserted]

theorem Chosen.within (hle : narrow ≤ wide) (h : l.Chosen narrow cost c)
    (h' : l.Chosen wide cost d) : c.Within d := by
  cases h' with
  | everything => exact within_everything h
  | skeleton hfull hsome hskeleton =>
    cases h with
    | everything hfits => exact absurd hfits (not_or.mpr ⟨by omega, hsome⟩)
    | skeleton => exact .refl _
    | latest _ _ hfits => omega
  | latest hfull hsome hskeleton ht =>
    cases h with
    | everything hfits => exact absurd hfits (not_or.mpr ⟨by omega, hsome⟩)
    | skeleton =>
      exact within_keepingLatest (Nat.zero_le _) l.keepingLatest_zero.symm rfl rfl
    | latest _ _ _ hs => exact within_keepingLatest (hs.mono hle ht) rfl rfl rfl

end Layout

theorem choose_within (p : Parts) (cost : Candidate → Int) {narrow wide : Int}
    (hle : narrow ≤ wide) :
    ((choose p narrow).eval cost).Within ((choose p wide).eval cost) := by
  rw [choose, choose]
  cases p.layout? with
  | none => exact .refl _
  | some l => exact (l.choose_chosen narrow cost).within hle (l.choose_chosen wide cost)

namespace Selection

theorem price_eq (cost : List Message → Int) (messages : List Message) (known : Option Int)
    (c : Candidate) : price cost messages known c =
      if c = identity messages.length then known.getD (cost messages)
      else cost (c.messages messages) := by
  by_cases hc : c = identity messages.length
  · subst hc
    cases known <;> simp [price, Ledger.price, Ledger.cost?, start, Candidate.messages_identity]
  · have hne : (c == identity messages.length) = false := beq_eq_false_iff_ne.mpr hc
    cases known <;> simp [price, Ledger.price, Ledger.cost?, start, List.lookup_cons, hne, hc]

theorem price_congr {cost : List Message → Int} {messages : List Message}
    {known known' : Option Int}
    (h : known.getD (cost messages) = known'.getD (cost messages)) :
    price cost messages known = price cost messages known' := by
  funext c
  rw [price_eq, price_eq, h]

/-- With a wider window a selection keeps every position that it keeps with a narrower one, and it
puts in a marker only where the narrower window has it put in one as well. -/
theorem select_widened (cost : List Message → Int) (messages : List Message)
    {narrow wide : Int} (hle : narrow ≤ wide) (requestId requestId' : Value)
    (known known' : Option Int) (p p' : Progress)
    (hknown : known.getD (cost messages) = known'.getD (cost messages)) :
    ∃ s q t q', (select (fun ms => .ok (cost ms)) messages narrow requestId known).run p =
        (.ok s, q) ∧
      (select (fun ms => .ok (cost ms)) messages wide requestId' known').run p' = (.ok t, q') ∧
      (∀ i, some i ∈ s.sources → some i ∈ t.sources) ∧
      (none ∈ t.sources → none ∈ s.sources) ∧
      (t.report.markerInserted = true → s.report.markerInserted = true) := by
  rcases eq_or_ne messages [] with rfl | hne
  · exact ⟨_, _, _, _, run_select_nil, run_select_nil, fun _ h => h, id, id⟩
  · obtain ⟨calls, q, hrun⟩ := exists_run_select hne
    obtain ⟨calls', q', hrun'⟩ := exists_run_select hne
    have hwithin := choose_within (parts (standings messages)) (price cost messages known) hle
    rw [← choice_eval, ← choice_eval] at hwithin
    rw [← price_congr hknown] at hrun'
    refine ⟨_, q, _, q', hrun, hrun', fun i hi => ?_, fun hi => ?_, hwithin.markerInserted⟩
    · exact some_mem_sources_iff.mpr (hwithin.kept i (some_mem_sources_iff.mp hi))
    · exact none_mem_sources_iff.mpr (hwithin.inserted (none_mem_sources_iff.mp hi))

theorem select_widened_sixMessages :
    (4 : Int) ≤ 5 ∧ (some (6 : Int)).getD sixMessages.length = none.getD sixMessages.length ∧
      ∃ s q t q', (select (fun ms => .ok ms.length) sixMessages 4 .null (some 6)).run {} =
          (.ok s, q) ∧
        s.sources = [some 0, some 1, none, some 5] ∧
        (select (fun ms => .ok ms.length) sixMessages 5 .null none).run {} = (.ok t, q') ∧
        t.sources = [some 0, some 1, none, some 4, some 5] ∧
        (∀ i, some i ∈ s.sources → some i ∈ t.sources) ∧
        t.report.markerInserted = true ∧ s.report.markerInserted = true := by
  obtain ⟨s, q, t, q', hrun, hrun', hkept, -, hinserted⟩ :=
    select_widened (fun ms => ms.length) sixMessages (show (4 : Int) ≤ 5 by decide) .null .null
      (some 6) none {} {} rfl
  obtain ⟨u, v, hu, hsources⟩ : ∃ u v,
      (select (fun ms => .ok ms.length) sixMessages 4 .null (some 6)).run {} = (.ok u, v) ∧
        u.sources = [some 0, some 1, none, some 5] := ⟨_, _, rfl, rfl⟩
  obtain ⟨w, x, hw, hsources', hwide⟩ : ∃ w x,
      (select (fun ms => .ok ms.length) sixMessages 5 .null none).run {} = (.ok w, x) ∧
        w.sources = [some 0, some 1, none, some 4, some 5] ∧ w.report.markerInserted = true :=
    ⟨_, _, rfl, rfl, rfl⟩
  rw [hrun] at hu
  rw [hrun'] at hw
  cases hu
  cases hw
  exact ⟨by decide, rfl, s, q, t, q', hrun, hsources, hrun', hsources', hkept, hwide,
    hinserted hwide⟩

end Selection

end ChatWindow
