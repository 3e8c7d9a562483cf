import ChatWindow.Proofs.Growth
import ChatWindow.Proofs.Stages

/-!
# What a caller's window can do

A caller who asks for a window never gets a larger one for it. Where callers are ignored, two builds
that differ in nothing else come to the same prompt or to the same failure. Where a caller's window
is an upper bound, it can only make a window smaller, down to the floor, and less so the more is
asked for.
-/

namespace ChatWindow

namespace Run

variable {α β : Type}

/-- The runs come to the same value or the same failure, whatever each of them starts from. -/
def Agree (x y : Run α) : Prop := ∀ p p' : Progress, (x.run p).1 = (y.run p').1

theorem agree_pure (a : α) : Agree (pure a) (pure a) := fun _ _ => rfl

theorem agree_lift (r : Except Failure α) : Agree (lift r) (lift r) := fun _ _ => rfl

theorem agree_deliver (r : Report) : Agree (deliver r) (deliver r) := fun _ _ => rfl

theorem Agree.bind {x y : Run α} {f g : α → Run β} (h : Agree x y)
    (hf : ∀ a, Agree (f a) (g a)) : Agree (x >>= f) (y >>= g) := by
  intro p p'
  have hfirst := h p p'
  rw [run_bind, run_bind]
  rcases hx : x.run p with ⟨e | a, q⟩ <;> rcases hy : y.run p' with ⟨e' | a', q'⟩ <;>
    rw [hx, hy] at hfirst <;> cases hfirst
  · rfl
  · exact hf a q q'

theorem agree_log (e : Event) : Agree (log e) (log e) :=
  (agree_lift e.entry).bind fun _ _ _ => rfl

end Run

open Run (Agree)

theorem Selection.agree_select (measure : List Message → Except Failure Int)
    (messages : List Message) (window : Int) (requestId : Value) (known : Option Int) :
    Agree (select measure messages window requestId known)
      (select measure messages window requestId known) := by
  intro p p'
  by_cases hne : messages = []
  · subst hne
    rfl
  · rw [run_select hne, run_select hne]
    rcases find measure messages window known with ⟨f | o, ledger⟩
    · rfl
    · rfl

namespace Window

open Quantity

/-- A reading that fails before it comes to the caller, or gives a request with the caller in it. -/
def CallerLast (reading : Value → Except Failure (WindowRequest Amount)) : Prop :=
  (∃ f, ∀ caller asked, optionalAmount caller = .ok asked → reading caller = .error f) ∨
    ∃ r : WindowRequest Amount, ∀ caller asked, optionalAmount caller = .ok asked →
      reading caller = .ok { r with caller := asked }

theorem CallerLast.bind {α : Type} (x : Except Failure α)
    {reading : α → Value → Except Failure (WindowRequest Amount)}
    (h : ∀ a, CallerLast (reading a)) :
    CallerLast fun caller => x >>= fun a => reading a caller := by
  cases x with
  | error f => exact .inl ⟨f, fun _ _ _ => rfl⟩
  | ok a => exact h a

theorem callerLast_read (length budget limit : Value) :
    CallerLast (read length budget limit) := by
  refine .bind _ fun limit => .bind _ fun _ => .bind _ fun length => .bind _ fun _ =>
    .bind _ fun budget => .inr ⟨⟨length, budget, limit, none⟩, ?_⟩
  intro caller asked h
  dsimp only
  rw [h]
  rfl

theorem agree_sizeValues {c : Config} (h : c.callerWindow = .ignore)
    {length budget limit caller caller' requestId : Value}
    (hcaller : ∃ asked, optionalAmount caller = .ok asked)
    (hcaller' : ∃ asked, optionalAmount caller' = .ok asked) :
    Agree (sizeValues c length budget limit caller requestId)
      (sizeValues c length budget limit caller' requestId) := by
  obtain ⟨asked, hasked⟩ := hcaller
  obtain ⟨asked', hasked'⟩ := hcaller'
  intro p p'
  obtain ⟨f, hread⟩ | ⟨r, hread⟩ := callerLast_read length budget limit
  · rw [sizeValues, sizeValues, Run.run_bind, Run.run_bind, Run.run_lift, Run.run_lift,
      hread caller asked hasked, hread caller' asked' hasked']
  · obtain ⟨q, hrun⟩ := exists_run_sizeValues c requestId (hread caller asked hasked) p
    obtain ⟨q', hrun'⟩ := exists_run_sizeValues c requestId (hread caller' asked' hasked') p'
    rw [hrun, hrun', fitted_of_ignored c h { r with caller := asked },
      fitted_of_ignored c h { r with caller := asked' }]

section
variable {c : Config} {r : WindowRequest Int}

theorem honoured_of_upperBound (h : c.callerWindow = .upperBound) {n : Int}
    (hn : r.caller = some n) : honoured c r = if 0 < n then some n else none := by
  rw [honoured, hn, h]
  change (if (decide (0 < n) && true) = true then some n else none) = _
  simp only [Bool.and_true, decide_eq_true_eq]

theorem fitted_of_not_honoured (h : honoured c r = none) :
    fitted c r = fitted c { r with caller := none } := by
  have hwanted : wanted c r = wanted c { r with caller := none } := by
    rw [wanted, wanted, h]
    rfl
  rw [fitted, fitted, hwanted]
  rfl

theorem wanted_of_honoured {n : Int} (h : honoured c r = some n) :
    wanted c r = min (wanted c { r with caller := none }) (roundUp n c.quantum) := by
  have hnone : honoured c { r with caller := none } = none := rfl
  rw [wanted_eq, wanted_eq, h, hnone]
  rfl

theorem wanted_le_without (c : Config) (r : WindowRequest Int) :
    wanted c r ≤ wanted c { r with caller := none } := by
  cases h : honoured c r with
  | none =>
    rw [wanted, wanted, h]
    exact Int.le_refl _
  | some n =>
    rw [wanted_of_honoured h]
    exact Int.min_le_left _ _

theorem tokens_fitted_le_of_honoured {n : Int} (h : honoured c r = some n)
    (hbelow : r.length < r.limit) :
    (fitted c r).tokens ≤ max (c.floor : Int) (roundUp n c.quantum) := by
  have hwanted : wanted c r ≤ roundUp n c.quantum := by
    rw [wanted_of_honoured h]
    exact Int.min_le_right _ _
  rw [tokens_fitted, if_neg (Int.not_le.mpr hbelow)]
  omega

end

theorem run_sizeRequest_refused (c : Config) (r : WindowRequest Int) (requestId : Value)
    (p : Progress) (h : r.limit ≤ 0 ∨ r.length < 0) :
    ∃ f, ∀ caller, (sizeRequest c { r with caller } requestId).run p = (.error f, p) := by
  by_cases hlimit : r.limit ≤ 0
  · exact ⟨badLimit (.int r.limit), fun caller =>
      run_sizeRequest_of_limit c (r := { r with caller }) requestId p hlimit⟩
  · have hlength : r.length < 0 := h.resolve_left hlimit
    exact ⟨badLength (.int r.length), fun caller =>
      run_sizeRequest_of_length c (r := { r with caller }) requestId p (Int.not_le.mp hlimit)
        hlength⟩

/-- What becomes of the window `v` of a request when a caller asks for `n` tokens. -/
structure Capped (c : Config) (r : WindowRequest Int) (n : Int) (v w : Window Int) : Prop where
  le : w.tokens ≤ v.tokens
  unasked : n ≤ 0 → w = v
  bound : 0 < n → r.length < r.limit → w.tokens ≤ max (c.floor : Int) (roundUp n c.quantum)

theorem capped_fitted {c : Config} (h : c.callerWindow = .upperBound) (r : WindowRequest Int)
    (n : Int) : Capped c r n (fitted c { r with caller := none })
      (fitted c { r with caller := some n }) := by
  have hhonoured := honoured_of_upperBound (r := { r with caller := some n }) h rfl
  refine ⟨?_, ?_, ?_⟩
  · exact tokens_fitted_mono c rfl (Int.le_refl _)
      (wanted_le_without c { r with caller := some n })
  · intro hn
    rw [if_neg (Int.not_lt.mpr hn)] at hhonoured
    exact fitted_of_not_honoured hhonoured
  · intro hn hbelow
    rw [if_pos hn] at hhonoured
    exact tokens_fitted_le_of_honoured hhonoured hbelow

theorem tokens_fitted_mono_caller {c : Config} (h : c.callerWindow = .upperBound)
    (r : WindowRequest Int) {m n : Int} (hm : 0 < m) (hmn : m ≤ n) :
    (fitted c { r with caller := some m }).tokens ≤
      (fitted c { r with caller := some n }).tokens := by
  have hless := honoured_of_upperBound (r := { r with caller := some m }) h rfl
  have hmore := honoured_of_upperBound (r := { r with caller := some n }) h rfl
  rw [if_pos hm] at hless
  rw [if_pos (Int.lt_of_lt_of_le hm hmn)] at hmore
  have hround := roundUp_mono (Int.natCast_pos.mpr c.quantum_pos) hmn
  refine tokens_fitted_mono c rfl (Int.le_refl _) ?_
  rw [wanted_of_honoured hless, wanted_of_honoured hmore]
  exact Int.le_min.mpr ⟨Int.min_le_left _ _, Int.le_trans (Int.min_le_right _ _) hround⟩

end Window

namespace Builder

theorem agree_measure (o : Oracle) (messages : List Message) :
    Agree (measure o messages) (measure o messages) := by
  by_cases hne : messages = []
  · subst hne
    exact Run.agree_pure 0
  · intro p p'
    rw [run_measure hne, run_measure hne]

theorem agree_report (b : Builder) (r : Report) : Agree (b.report r) (b.report r) := by
  have hdeliver : Agree (if b.reporting then Run.deliver r else pure ())
      (if b.reporting then Run.deliver r else pure ()) := by
    split
    · exact Run.agree_deliver r
    · exact Run.agree_pure ()
  rw [report]
  split
  · exact (Run.agree_log _).bind fun _ => hdeliver
  · exact hdeliver

section
variable {b : Builder} {r : PromptRequest} {asked : Value}
  (h : b.config.callerWindow = .ignore)
  (hcaller : ∃ a, Window.optionalAmount r.numCtx = .ok a)
  (hasked : ∃ a, Window.optionalAmount asked = .ok a)
include h hcaller hasked

theorem agree_fit (o : Oracle) (length : Int) :
    Agree (b.fit r o length) (b.fit { r with numCtx := asked } o length) := by
  -- Only sizing reads the caller; every later stage is the same run twice.
  rw [fit, fit]
  refine (Window.agree_sizeValues h hcaller hasked).bind fun window => ?_
  refine (Run.agree_log _).bind fun _ => (Run.agree_lift _).bind fun size => ?_
  refine (Selection.agree_select _ _ _ _ _).bind fun selection => ?_
  exact (Run.agree_lift _).bind fun _ => (Run.agree_lift _).bind fun _ => Run.agree_pure _

theorem agree_prepare : Agree (b.prepare r) (b.prepare { r with numCtx := asked }) := by
  rw [prepare, prepare]
  refine (Run.agree_lift _).bind fun _ => (Run.agree_lift _).bind fun tools => ?_
  exact (agree_measure _ _).bind fun length => agree_fit h hcaller hasked _ length

theorem agree_build : Agree (b.build r) (b.build { r with numCtx := asked }) := by
  rw [build_eq, build_eq]
  refine (agree_prepare h hcaller hasked).bind fun c => ?_
  exact (b.agree_report c.report).bind fun _ => Run.agree_pure c

end

/-- Where callers are ignored, what one asks for changes neither the prompt that is returned nor the
failure that is raised. Where a caller's window is an upper bound, a request that is refused is
refused all the same, no other request gets a larger window for it, and asking for more never makes
the window smaller. -/
theorem caller_never_enlarges :
    (∀ (b : Builder) (r : PromptRequest) (asked : Value) (p p' : Progress),
      b.config.callerWindow = .ignore →
      (∃ a, Window.optionalAmount r.numCtx = .ok a) →
      (∃ a, Window.optionalAmount asked = .ok a) →
      ((b.build r).run p).1 = ((b.build { r with numCtx := asked }).run p').1) ∧
    ∀ (c : Config) (r : WindowRequest Int) (requestId : Value) (p : Progress),
      c.callerWindow = .upperBound →
      (r.limit ≤ 0 ∨ r.length < 0 → ∃ f, ∀ caller,
        (Window.sizeRequest c { r with caller } requestId).run p = (.error f, p)) ∧
      (0 < r.limit → 0 ≤ r.length → ∃ (v : Window Int) (q : Progress),
        (Window.sizeRequest c { r with caller := none } requestId).run p = (.ok v.amounts, q) ∧
        ∀ n : Int, ∃ (w : Window Int) (q : Progress),
          (Window.sizeRequest c { r with caller := some n } requestId).run p =
            (.ok w.amounts, q) ∧
          Window.Capped c r n v w ∧
          ∀ m, 0 < m → m ≤ n → ∃ (u : Window Int) (q : Progress),
            (Window.sizeRequest c { r with caller := some m } requestId).run p =
              (.ok u.amounts, q) ∧ u.tokens ≤ w.tokens) := by
  refine ⟨fun b r asked p p' h hcaller hasked => agree_build h hcaller hasked p p', ?_⟩
  intro c r requestId p h
  refine ⟨fun hrefused => Window.run_sizeRequest_refused c r requestId p hrefused, ?_⟩
  intro hlimit hlength
  have hruns : ∀ caller : Option Int, ∃ q,
      (Window.sizeRequest c { r with caller } requestId).run p =
        (.ok (Window.fitted c { r with caller }).amounts, q) :=
    fun _ => Window.run_sizeRequest c requestId p hlimit hlength
  obtain ⟨q, hrun⟩ := hruns none
  refine ⟨_, q, hrun, fun n => ?_⟩
  obtain ⟨q', hrun'⟩ := hruns (some n)
  refine ⟨_, q', hrun', Window.capped_fitted h r n, fun m hm hmn => ?_⟩
  obtain ⟨q'', hrun''⟩ := hruns (some m)
  exact ⟨_, q'', hrun'', Window.tokens_fitted_mono_caller h r hm hmn⟩

def bounding : Config := { Config.standard with callerWindow := .upperBound }

theorem caller_never_enlarges_sampleRequest :
    sampleBuilder.config.callerWindow = .ignore ∧ bounding.callerWindow = .upperBound ∧
      (∃ c q q', (sampleBuilder.build sampleRequest).run {} = (.ok c, q) ∧
        c.prompt = "one...three" ∧
        (sampleBuilder.build { sampleRequest with numCtx := .int 3 }).run {} = (.ok c, q')) ∧
      ∃ u w q q', (Window.sizeRequest bounding ⟨100, -1, 8192, some 2000⟩ .null).run {} =
          (.ok (Window.amounts w), q) ∧
        w.tokens = 2048 ∧ w.tokens ≤ max 1024 (roundUp 2000 1024) ∧
        (Window.sizeRequest bounding ⟨100, -1, 8192, some 16⟩ .null).run {} =
          (.ok (Window.amounts u), q') ∧
        u.tokens = 1024 ∧ u.tokens ≤ w.tokens := by
  obtain ⟨hbuilds, hwindows⟩ := caller_never_enlarges
  have hsame := hbuilds sampleBuilder sampleRequest (.int 3) {} {} rfl ⟨none, rfl⟩ ⟨_, rfl⟩
  obtain ⟨c, q, hrun, hprompt⟩ : ∃ c q, (sampleBuilder.build sampleRequest).run {} = (.ok c, q) ∧
      c.prompt = "one...three" := ⟨_, _, rfl, rfl⟩
  obtain ⟨x, q', hasking⟩ : ∃ x q',
      (sampleBuilder.build { sampleRequest with numCtx := .int 3 }).run {} = (x, q') :=
    ⟨_, _, rfl⟩
  rw [hrun, hasking] at hsame
  cases hsame
  obtain ⟨v, -, -, hasked⟩ :=
    (hwindows bounding ⟨100, -1, 8192, none⟩ .null {} rfl).2 (by decide) (by decide)
  obtain ⟨w, q₁, hwide, hcapped, hless⟩ := hasked 2000
  obtain ⟨u, q₂, hnarrow, hle⟩ := hless 16 (by decide) (by decide)
  have hw : w = ⟨2048, 8092, false⟩ :=
    Window.amounts_injective (Except.ok.inj (congrArg Prod.fst hwide).symm)
  have hu : u = ⟨1024, 8092, false⟩ :=
    Window.amounts_injective (Except.ok.inj (congrArg Prod.fst hnarrow).symm)
  refine ⟨rfl, rfl, ⟨c, q, q', hrun, hprompt, hasking⟩, u, w, q₁, q₂, hwide, ?_,
    hcapped.bound (by decide) (by decide), hnarrow, ?_, hle⟩
  · rw [hw]
  · rw [hu]

end Builder

end ChatWindow
