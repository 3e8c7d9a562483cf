import ChatWindow.Proofs.Registry
import ChatWindow.Proofs.Stages

/-!
# Refusals

A conversation is refused for its images before anything is measured. It is refused exactly if one
of its messages, whether it would be kept or not, has more images than the limit of the model, and
what is raised names the first such message.
-/

namespace ChatWindow

def Failure.OfKind (kind : FitKind) (f : Failure) : Prop :=
  ∃ message details cause, f = .fit kind message details cause

namespace Image

variable {limit i : Nat} {messages : List Message} {m : Message}

/-- Of the messages with more images than the limit the first one, and its position. -/
structure FirstOver (limit : Nat) (messages : List Message) (i : Nat) (m : Message) : Prop where
  stands : messages[i]? = some m
  beyond : limit < m.images.length
  first : ∀ j < i, ∀ m', messages[j]? = some m' → m'.images.length ≤ limit

theorem exceededBy_int (limit n : Nat) :
    (Value.int limit).exceededBy n = .ok (decide ((limit : Int) < n)) := rfl

theorem checkFrom_cons_of_over (h : limit < m.images.length) (start : Nat)
    (rest : List Message) : checkFrom (.int limit) start (m :: rest) =
      .error (.tooManyImages start m.images.length (.int limit)) := by
  have hover : decide ((limit : Int) < m.images.length) = true :=
    decide_eq_true (Int.ofNat_lt.mpr h)
  rw [checkFrom, exceededBy_int, hover]
  rfl

theorem checkFrom_cons_of_within (h : m.images.length ≤ limit) (start : Nat)
    (rest : List Message) :
    checkFrom (.int limit) start (m :: rest) = checkFrom (.int limit) (start + 1) rest := by
  have hwithin : decide ((limit : Int) < m.images.length) = false :=
    decide_eq_false (Int.not_lt.mpr (Int.ofNat_le.mpr h))
  rw [checkFrom, exceededBy_int, hwithin]
  rfl

theorem checkFrom_of_within (h : ∀ m ∈ messages, m.images.length ≤ limit) (start : Nat) :
    checkFrom (.int limit) start messages = .ok () := by
  induction messages generalizing start with
  | nil => rfl
  | cons m messages ih =>
    rw [List.forall_mem_cons] at h
    rw [checkFrom_cons_of_within h.1]
    exact ih h.2 (start + 1)

theorem checkFrom_of_firstOver (h : FirstOver limit messages i m) (start : Nat) :
    checkFrom (.int limit) start messages =
      .error (.tooManyImages (start + i) m.images.length (.int limit)) := by
  induction messages generalizing i start with
  | nil => cases h.stands
  | cons m' messages ih =>
    cases i with
    | zero =>
      cases h.stands
      exact checkFrom_cons_of_over h.beyond start messages
    -- The message in front is within the limit, and the position counts on from the next one.
    | succ i =>
      have hrest : FirstOver limit messages i m :=
        ⟨h.stands, h.beyond, fun j hj => h.first (j + 1) (Nat.succ_lt_succ hj)⟩
      rw [checkFrom_cons_of_within (h.first 0 (Nat.succ_pos i) m' rfl), ih hrest, Nat.add_assoc,
        Nat.add_comm 1 i]

theorem exists_firstOver (h : ∃ m ∈ messages, limit < m.images.length) :
    ∃ i m, FirstOver limit messages i m := by
  induction messages with
  | nil =>
    obtain ⟨m, hm, -⟩ := h
    cases hm
  | cons m messages ih =>
    by_cases hm : limit < m.images.length
    · exact ⟨0, m, rfl, hm, fun j hj => absurd hj (Nat.not_lt_zero j)⟩
    · obtain ⟨m', hm', hover⟩ := h
      obtain rfl | hm' := List.mem_cons.mp hm'
      · exact absurd hover hm
      · obtain ⟨i, m', hfirst⟩ := ih ⟨m', hm', hover⟩
        refine ⟨i + 1, m', hfirst.stands, hfirst.beyond, fun j hj m'' hm'' => ?_⟩
        cases j with
        | zero =>
          cases hm''
          exact Nat.not_lt.mp hm
        | succ j => exact hfirst.first j (Nat.lt_of_succ_lt_succ hj) m'' hm''

end Image

theorem Failure.not_ofKind_badKind (kind : FitKind) (fault : KindFault) :
    ¬(Failure.badKind fault).OfKind kind := by
  rintro ⟨_, _, _, ⟨⟩⟩

theorem Value.badKind_of_items {v : Value} {f : Failure} (h : v.items = .error f) :
    ∃ fault, f = .badKind fault := by
  rw [items] at h
  split at h
  · cases h
  · cases h
    exact ⟨_, rfl⟩

namespace Window

theorem badKind_of_compared {sign : String} {v : Value} {f : Failure}
    (h : Amount.compared sign v = .error f) : ∃ fault, f = .badKind fault := by
  rw [Amount.compared] at h
  split at h
  · cases h
  · cases h
    exact ⟨_, rfl⟩

theorem badKind_of_optionalAmount {v : Value} {f : Failure} (h : optionalAmount v = .error f) :
    ∃ fault, f = .badKind fault := by
  rw [optionalAmount] at h
  split at h
  · cases h
  · cases hv : Amount.compared ">" v with
    | ok a =>
      rw [hv] at h
      cases h
    | error f' =>
      rw [hv] at h
      cases h
      exact badKind_of_compared hv

theorem badKind_of_whole {w : Window Amount} {f : Failure} (h : w.whole = .error f) :
    ∃ fault, f = .badKind fault := by
  rw [whole] at h
  split at h
  · cases h
  · cases h
    exact ⟨_, rfl⟩

theorem badKind_or_configuration_of_read {length budget limit caller : Value} {f : Failure}
    (h : read length budget limit caller = .error f) :
    (∃ fault, f = .badKind fault) ∨ f.OfKind .configuration := by
  obtain h | ⟨limit, -, h⟩ := bind_eq_error.mp h
  · exact .inl (badKind_of_compared h)
  obtain h | ⟨_, -, h⟩ := bind_eq_error.mp h
  · rw [checkLimit] at h
    split at h
    · cases h
      exact .inr ⟨_, _, _, rfl⟩
    · cases h
  obtain h | ⟨length, -, h⟩ := bind_eq_error.mp h
  · exact .inl (badKind_of_compared h)
  obtain h | ⟨_, -, h⟩ := bind_eq_error.mp h
  · rw [checkLength] at h
    split at h
    · cases h
      exact .inr ⟨_, _, _, rfl⟩
    · cases h
  obtain h | ⟨budget, -, h⟩ := bind_eq_error.mp h
  · exact .inl (badKind_of_compared h)
  obtain h | ⟨caller, -, h⟩ := bind_eq_error.mp h
  · exact .inl (badKind_of_optionalAmount h)
  · cases h

theorem not_tooManyImages_of_read {length budget limit caller : Value} {f : Failure}
    (h : read length budget limit caller = .error f) : ¬f.OfKind .tooManyImages := by
  obtain ⟨fault, rfl⟩ | ⟨message, details, cause, rfl⟩ := badKind_or_configuration_of_read h
  · exact Failure.not_ofKind_badKind _ fault
  · rintro ⟨_, _, _, ⟨⟩⟩

end Window

namespace Builder

def registered (b : Builder) (calls : List (String × Int)) : Builder :=
  { b with registry := .after calls }

variable {b : Builder} {r : PromptRequest} {p q : Progress} {f : Failure}

theorem covers_of_nil (hnil : r.messages = []) (o : Oracle) (length : Int) :
    Covers b r o length (fun f => ¬f.OfKind .tooManyImages) where
  read _ := Window.not_tooManyImages_of_read
  whole _ f _ h := by
    obtain ⟨fault, rfl⟩ := Window.badKind_of_whole h
    exact Failure.not_ofKind_badKind _ fault
  measured _ _ hne := absurd hnil hne
  named messages f hkept h := by
    have himages : ∀ m ∈ messages, m.images = [] := by
      intro m hm
      obtain hmem | rfl := hkept m hm
      · rw [hnil] at hmem
        cases hmem
      · rfl
    rw [Image.assign_of_no_images _ _ himages] at h
    cases h
  rendered _ _ hne := absurd hnil hne

theorem covers_anything (o : Oracle) (length : Int) : Covers b r o length fun _ => True :=
  ⟨fun _ _ => trivial, fun _ _ _ _ => trivial, fun _ _ _ _ => trivial, fun _ _ _ _ => trivial,
    fun _ _ _ _ => trivial⟩

theorem measured_lt_of_prepare
    (hcheck : Image.checkLimit (.ofInt? (b.imageLimit.map Int.ofNat)) r.messages = .ok ())
    (h : (b.prepare r).run p = (.error f, q)) (hf : f.OfKind .tooManyImages) :
    p.measured < q.measured := by
  rw [prepare, Run.run_bind, Run.run_lift, hcheck] at h
  dsimp only at h
  rw [Run.run_bind, Run.run_lift] at h
  cases htools : r.tools.items with
  | error f' =>
    rw [htools] at h
    cases h
    obtain ⟨fault, rfl⟩ := Value.badKind_of_items htools
    exact absurd hf (Failure.not_ofKind_badKind _ fault)
  | ok tools =>
    rw [htools] at h
    dsimp only at h
    rw [Run.run_bind] at h
    by_cases hnil : r.messages = []
    · rw [hnil] at h
      have hraised := (covers_of_nil (b := b) hnil (b.oracle tools r.think) 0).silent_fit.raised p f
        (congrArg Prod.fst h)
      exact absurd hf hraised
    · rw [run_measure hnil] at h
      cases hmeasure : (b.oracle tools r.think).measure r.messages with
      | error f' =>
        rw [hmeasure] at h
        cases h
        exact Nat.lt_succ_self _
      | ok length =>
        rw [hmeasure] at h
        have hprogress := (covers_anything (b := b) (r := r) (b.oracle tools r.think)
          length).silent_fit.progress { p with measured := p.measured + 1 }
        rw [congrArg Prod.snd h] at hprogress
        exact Nat.lt_of_succ_le hprogress.measured

theorem measured_lt_of_build
    (hcheck : Image.checkLimit (.ofInt? (b.imageLimit.map Int.ofNat)) r.messages = .ok ())
    (h : (b.build r).run p = (.error f, q)) (hf : f.OfKind .tooManyImages) :
    p.measured < q.measured := by
  rw [build_eq, Run.run_bind] at h
  rcases hprepare : (b.prepare r).run p with ⟨f' | c, q'⟩
  · rw [hprepare] at h
    cases h
    exact measured_lt_of_prepare hcheck hprepare hf
  · rw [hprepare] at h
    dsimp only at h
    rw [Run.run_bind] at h
    obtain ⟨q'', hreport, -⟩ | ⟨herror, -⟩ := b.run_report_cases c.report q'
    · rw [hreport] at h
      cases h
    · rw [herror] at h
      cases h
      obtain ⟨_, _, _, ⟨⟩⟩ := hf

theorem run_build_of_firstOver {limit i : Nat} {m : Message} (hlimit : b.imageLimit = some limit)
    (h : Image.FirstOver limit r.messages i m) (p : Progress) :
    (b.build r).run p = (.error (.tooManyImages i m.images.length (.int limit)), p) := by
  have hcheck : Image.checkLimit (.ofInt? (b.imageLimit.map Int.ofNat)) r.messages =
      .error (.tooManyImages i m.images.length (.int limit)) := by
    rw [hlimit, ← Nat.zero_add i]
    exact Image.checkFrom_of_firstOver h 0
  rw [build, Run.run_bind, Run.run_lift, hcheck]

theorem checkLimit_of_within
    (h : ∀ limit, b.imageLimit = some limit → ∀ m ∈ r.messages, m.images.length ≤ limit) :
    Image.checkLimit (.ofInt? (b.imageLimit.map Int.ofNat)) r.messages = .ok () := by
  cases hlimit : b.imageLimit with
  | none => rfl
  | some limit => exact Image.checkFrom_of_within (h limit hlimit) 0

/-- A builder refuses a conversation before it measures anything exactly if one of its messages has
more images than the limit of its model, which is its own or the smallest one accepted last for one
of its families. It names the first such message. Registrations that are refused change nothing,
registered limits are not negative, and more families make no limit larger. -/
theorem build_refuses (b : Builder) (calls : List (String × Int)) (r : PromptRequest)
    (p : Progress) :
    ((∃ f q, ((b.registered calls).build r).run p = (.error f, q) ∧ f.OfKind .tooManyImages ∧
        q.measured = p.measured) ↔
      ∃ limit, b.model.Limited calls limit ∧ ∃ m ∈ r.messages, limit < m.images.length) ∧
    (∀ limit i m, b.model.Limited calls limit → Image.FirstOver limit r.messages i m →
      ((b.registered calls).build r).run p =
        (.error (.tooManyImages i m.images.length (.int limit)), p)) ∧
    (∀ limit, (b.registered calls).imageLimit = some limit ↔ b.model.Limited calls limit) ∧
    ((b.registered calls).imageLimit = none ↔ b.model.maxImages = none ∧
      ∀ family ∈ b.model.families, Registry.lastAccepted calls family = none) ∧
    (∀ family limit, limit < 0 →
      (Registry.after calls).registerValue family (.int limit) =
          .error (.badValue .negativeLimit) ∧
        Registry.after (calls ++ [(family, limit)]) = Registry.after calls) ∧
    (∀ family, ((Registry.after calls).limitOf? family).map Int.ofNat =
        Registry.lastAccepted calls family ∧
      ∀ limit, Registry.lastAccepted calls family = some limit → 0 ≤ limit) ∧
    ∀ families limit, (∀ family ∈ b.model.families, family ∈ families) →
      b.model.Limited calls limit → ∃ k ≤ limit, { b.model with families }.Limited calls k := by
  have hlimit : ∀ limit, (b.registered calls).imageLimit = some limit ↔
      b.model.Limited calls limit := fun limit => Model.imageLimit_eq_some_iff
  have hrefused : ∀ limit i m, b.model.Limited calls limit →
      Image.FirstOver limit r.messages i m → ((b.registered calls).build r).run p =
        (.error (.tooManyImages i m.images.length (.int limit)), p) :=
    fun limit i m h hfirst => run_build_of_firstOver ((hlimit limit).mpr h) hfirst p
  refine ⟨⟨?_, ?_⟩, hrefused, hlimit, Model.imageLimit_eq_none_iff, fun family limit hneg => ?_,
    fun family => ⟨Registry.limitOf?_after calls family, fun _ => Registry.nonneg_of_lastAccepted⟩,
    fun families limit hsubset h => ?_⟩
  · rintro ⟨f, q, hrun, hf, hmeasured⟩
    refine Classical.byContradiction fun hwithin => ?_
    have hcheck := checkLimit_of_within (b := b.registered calls) fun limit h m hm =>
      Nat.not_lt.mp fun hover => hwithin ⟨limit, (hlimit limit).mp h, m, hm, hover⟩
    exact absurd (measured_lt_of_build hcheck hrun hf) (by omega)
  · rintro ⟨limit, h, hover⟩
    obtain ⟨i, m, hfirst⟩ := Image.exists_firstOver hover
    exact ⟨_, p, hrefused limit i m h hfirst, ⟨_, _, _, rfl⟩, rfl⟩
  · rw [Registry.registerValue_int]
    refine ⟨Registry.register_of_neg _ family hneg, ?_⟩
    rw [Registry.after_concat, Registry.attempt_of_neg _ family hneg]
  · obtain ⟨k, hk, hfamilies⟩ :=
      Model.imageLimit_of_subset hsubset (Model.imageLimit_eq_some_iff.mpr h)
    exact ⟨k, hk, Model.imageLimit_eq_some_iff.mp hfamilies⟩

end Builder

end ChatWindow
