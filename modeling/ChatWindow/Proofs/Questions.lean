import ChatWindow.Proofs.Ledger
import ChatWindow.Proofs.Longest

/-!
# What a selection measures

A selection tries the whole conversation with its system messages in front, then the skeleton, then
the latest intermediates one more at a time, and stops where what it has tried decides the choice.
At the end it asks for the conversation as it was given. Of all this it measures what it does not
know yet, each candidate once, up to the first measurement that fails.
-/

namespace ChatWindow

open Selection (standings)

namespace Layout

variable (l : Layout) (window : Int) (cost : Candidate → Int)

def tried : List Candidate :=
  l.full ::
    if cost l.full ≤ window ∨ l.intermediates = [] then []
    else
      l.skeleton ::
        if window < cost l.skeleton then []
        else
          upTo (fun c => decide (window < cost c))
            ((List.range l.intermediates.length).map fun k => l.keepingLatest (k + 1))

theorem length_tried_le : (l.tried window cost).length ≤ l.intermediates.length + 2 := by
  have hscan := (upTo_sublist (fun c => decide (window < cost c))
    ((List.range l.intermediates.length).map fun k => l.keepingLatest (k + 1))).length_le
  rw [List.length_map, List.length_range] at hscan
  rw [tried]
  split
  · simp
  · split
    · simp
    · simpa using hscan

theorem asked_fill (older suffix : List Nat) :
    (l.fill window older suffix).asked cost =
      upTo (fun c => decide (window < cost c)) ((List.range older.length).map fun k =>
        l.withSuffix ((older.take (k + 1)).reverse ++ suffix)) := by
  -- Each step of the scan moves one message from `older` to the front of `suffix`.
  induction older generalizing suffix with
  | nil => rfl
  | cons i older ih =>
    have hmoved : ∀ k, ((i :: older).take (k + 1)).reverse ++ suffix =
        (older.take k).reverse ++ (i :: suffix) := by simp
    simp only [hmoved]
    rw [fill, Inquiry.asked, List.length_cons, List.range_succ_eq_map, List.map_cons,
      List.map_map, upTo]
    change l.withSuffix (i :: suffix) :: _ =
      if decide (window < cost (l.withSuffix (i :: suffix))) = true then
        [l.withSuffix (i :: suffix)] else l.withSuffix (i :: suffix) :: _
    by_cases hstops : window < cost (l.withSuffix (i :: suffix))
    · rw [if_pos hstops, if_pos (decide_eq_true hstops)]
      rfl
    · rw [if_neg hstops, if_neg (by simpa using hstops), ih]
      rfl

theorem asked_choose : (l.choose window).asked cost = l.tried window cost := by
  have hscan := l.asked_fill window cost l.intermediates.reverse []
  simp only [List.append_nil, ← List.rtake_eq_reverse_take_reverse, List.length_reverse] at hscan
  rw [choose, Inquiry.asked, Inquiry.asked_remark, tried]
  congr 1
  split
  · rfl
  · rw [Inquiry.asked]
    congr 1
    split
    · rfl
    · rw [Inquiry.map, Inquiry.asked_bind, hscan]
      exact List.append_nil _

theorem withSuffix_fill_mem (older suffix : List Nat) :
    l.withSuffix ((l.fill window older suffix).eval cost) ∈
      l.withSuffix suffix :: (l.fill window older suffix).asked cost := by
  induction older generalizing suffix with
  | nil => exact List.mem_cons_self
  | cons i older ih =>
    rw [fill, Inquiry.eval_ask, Inquiry.asked]
    split
    · exact List.mem_cons_self
    · exact List.mem_cons_of_mem _ (ih (i :: suffix))

theorem slots_mem_tried : ((l.choose window).eval cost).slots ∈ l.tried window cost := by
  rw [← asked_choose, choose, Inquiry.eval_ask, Inquiry.asked, Inquiry.eval_remark,
    Inquiry.asked_remark]
  split
  · exact List.mem_cons_self
  · rw [Inquiry.eval_ask, Inquiry.asked]
    refine List.mem_cons_of_mem _ ?_
    split
    · exact List.mem_cons_self
    · rw [Inquiry.eval_map, Inquiry.map, Inquiry.asked_bind]
      have hmem := l.withSuffix_fill_mem window cost l.intermediates.reverse []
      exact (List.append_nil (Inquiry.asked cost _)).symm ▸ hmem

end Layout

def questions (messages : List Message) (window : Int) (cost : Candidate → Int) :
    List Candidate :=
  (match (parts (standings messages)).layout? with
    | some l => l.tried window cost
    | none => []) ++ [identity messages.length]

theorem length_questions_le (messages : List Message) (window : Int) (cost : Candidate → Int) :
    (questions messages window cost).length ≤
      (parts (standings messages)).intermediates.length + 3 := by
  rw [questions, Parts.intermediates, List.length_append]
  cases (parts (standings messages)).layout? with
  | none => simp
  | some l =>
    have htried := l.length_tried_le window cost
    simpa using htried

theorem fresh_asked_outcome (messages : List Message) (window : Int) (cost : Candidate → Int)
    (known stops : Candidate → Bool) :
    fresh known (upTo stops ((outcome (standings messages) window).asked cost)) =
      fresh known (upTo stops (questions messages window cost)) := by
  have hlength : (standings messages).length = messages.length := List.length_map _
  have hasked : (outcome (standings messages) window).asked cost =
      (choose (parts (standings messages)) window).asked cost ++
        chosenSlots messages window cost :: [identity messages.length] := by
    rw [outcome, Inquiry.asked_bind, hlength]
    rfl
  rw [hasked, questions]
  cases hl : (parts (standings messages)).layout? with
  | none =>
    rw [chosenSlots_of_chat_nil (layout?_eq_none_iff.mp hl), choose, hl]
    exact fresh_upTo_append_cons known stops (List.mem_singleton_self _) []
  | some l =>
    have hchosen := l.slots_mem_tried window cost
    rw [chosenSlots, choose, hl, Layout.asked_choose]
    exact fresh_upTo_append_cons known stops hchosen _

namespace Selection

/-- The search of a selection where each candidate is answered for by itself, so that the answer to
one says nothing about another with the same messages. -/
def search (answer : Candidate → Except Failure Int) (messages : List Message) (window : Int)
    (known : Option Int) : Except Failure Outcome × Ledger Candidate :=
  (outcome (standings messages) window).run answer (start messages known)

theorem find_eq_search (measure : List Message → Except Failure Int) (messages : List Message)
    (window : Int) (known : Option Int) : find measure messages window known =
      search (fun c => measure (c.messages messages)) messages window known := rfl

/-- How a search measures: in which order, what, how often, and what a failure does. -/
structure Traced (answer : Candidate → Except Failure Int) (messages : List Message)
    (window : Int) (known : Option Int) (result : Except Failure Outcome)
    (measured : List Candidate) : Prop where
  order : ∀ cost : Candidate → Int,
    (∀ c n, (start messages known).quote answer c = .ok n → cost c = n) →
    measured = fresh (start messages known).knows
      (upTo (fails ((start messages known).quote answer)) (questions messages window cost))
  nodup : measured.Nodup
  given : known ≠ none → identity messages.length ∉ measured
  length_le : measured.length ≤ (parts (standings messages)).intermediates.length + 3
  stopped : Inquiry.Stopped answer result measured

section
variable (answer : Candidate → Except Failure Int) (messages : List Message) (window : Int)
  (known : Option Int)

theorem measured_start : (start messages known).measured = [] := by
  cases known <;> rfl

theorem measured_search {cost : Candidate → Int}
    (hcost : ∀ c n, (start messages known).quote answer c = .ok n → cost c = n) :
    (search answer messages window known).2.measured =
      fresh (start messages known).knows
        (upTo (fails ((start messages known).quote answer)) (questions messages window cost)) := by
  rw [search, Inquiry.run_measured answer _ _ cost hcost, measured_start, List.nil_append]
  exact fresh_asked_outcome messages window cost _ _

theorem knows_identity (h : known ≠ none) :
    (start messages known).knows (identity messages.length) = true := by
  cases known with
  | none => exact absurd rfl h
  | some n => simp [start, Ledger.knows, Ledger.cost?]

theorem traced_search : Traced answer messages window known
    (search answer messages window known).1 (search answer messages window known).2.measured := by
  have hmeasured := measured_search answer messages window known fun _ _ => costed_of_ok
  refine ⟨fun _ h => measured_search answer messages window known h, ?_, ?_, ?_, ?_⟩
  · rw [hmeasured]
    exact fresh_nodup _ _
  · intro hknown hmem
    rw [hmeasured] at hmem
    exact Bool.false_ne_true ((known_of_mem_fresh hmem).symm.trans
      (knows_identity messages known hknown))
  · rw [hmeasured]
    exact ((fresh_sublist _ _).trans (upTo_sublist _ _)).length_le.trans
      (length_questions_le messages window _)
  · obtain ⟨new, hnew, hstopped⟩ :=
      Inquiry.run_stopped answer (outcome (standings messages) window) (start messages known)
    rw [measured_start, List.nil_append] at hnew
    rw [search, hnew]
    exact hstopped

end

structure Accounted (found : Except Failure Outcome × Ledger Candidate) (p q : Progress)
    (returned : Except Failure Selection) : Prop where
  measured : q.measured = p.measured + found.2.measured.length
  raises : ∀ f, returned = .error f ↔ found.1 = .error f
  calls : ∀ s, returned = .ok s → s.report.calls = found.2.measured.length

theorem accounted_run_select (measure : List Message → Except Failure Int)
    {messages : List Message} (hne : messages ≠ []) (window : Int) (requestId : Value)
    (known : Option Int) :
    ∃ returned, ∀ p, ∃ q,
      (select measure messages window requestId known).run p = (returned, q) ∧
        Accounted (search (fun c => measure (c.messages messages)) messages window known) p q
          returned := by
  rw [← find_eq_search]
  rcases hfound : find measure messages window known with ⟨f | o, ledger⟩
  · refine ⟨.error f, fun p => ?_⟩
    rw [run_select hne, hfound]
    refine ⟨_, rfl, rfl, ?_, ?_⟩
    · intro e
      simp
    · intro s hs
      cases hs
  · refine ⟨.ok (ofOutcome messages o ledger.measured.length window requestId), fun p => ?_⟩
    rw [run_select hne, hfound]
    refine ⟨_, rfl, rfl, ?_, ?_⟩
    · intro e
      simp
    · intro s hs
      cases hs
      rfl

/-- A selection measures what its questions come to, each candidate at most once, and stops with the
first measurement that fails. It reports how often it has measured itself, and what was measured
before makes no difference to it. -/
theorem select_measures (messages : List Message) (window : Int) (known : Option Int) :
    (∀ answer : Candidate → Except Failure Int, Traced answer messages window known
      (search answer messages window known).1
      (search answer messages window known).2.measured) ∧
    ∀ (measure : List Message → Except Failure Int) (requestId : Value),
      (messages = [] → (empty window requestId).report.calls = 0 ∧
        ∀ p, (select measure messages window requestId known).run p =
          (.ok (empty window requestId), p)) ∧
      (messages ≠ [] → ∃ returned, ∀ p, ∃ q,
        (select measure messages window requestId known).run p = (returned, q) ∧
          Accounted (search (fun c => measure (c.messages messages)) messages window known) p q
            returned) := by
  refine ⟨fun answer => traced_search answer messages window known, fun measure requestId => ?_⟩
  constructor
  · rintro rfl
    exact ⟨rfl, fun p => run_select_nil⟩
  · intro hne
    exact accounted_run_select measure hne window requestId known

def fiveFails (messages : List Message) : Except Failure Int :=
  if messages.length = 5 then .error (.raised .runtime "five") else .ok messages.length

theorem select_measures_sixMessages :
    (∃ s, ∀ p, ∃ q,
      (select (fun ms => .ok ms.length) sixMessages 5 .null (some 6)).run p = (.ok s, q) ∧
        q.measured = p.measured + 3 ∧ s.report.calls = 3) ∧
    ∀ p, ∃ q,
      (select fiveFails sixMessages 5 .null (some 6)).run p =
        (.error (.raised .runtime "five"), q) ∧
      q.measured = p.measured + 2 := by
  obtain ⟨htraced, hselect⟩ := select_measures sixMessages 5 (some 6)
  constructor
  · have hsearch := htraced fun c => .ok (c.messages sixMessages).length
    obtain ⟨returned, hrun⟩ := (hselect (fun ms => .ok ms.length) .null).2 (by decide)
    have hcount := congrArg List.length (hsearch.order _ fun _ _ => costed_of_ok)
    change _ = 3 at hcount
    cases returned with
    | error f =>
      obtain ⟨q, -, haccounted⟩ := hrun {}
      obtain ⟨c, -, hc⟩ := hsearch.stopped.raised f ((haccounted.raises f).mp rfl)
      cases hc
    | ok s =>
      refine ⟨s, fun p => ?_⟩
      obtain ⟨q, hq, haccounted⟩ := hrun p
      rw [← hcount]
      exact ⟨q, hq, haccounted.measured, haccounted.calls s rfl⟩
  · have hsearch := htraced fun c => fiveFails (c.messages sixMessages)
    obtain ⟨returned, hrun⟩ := (hselect fiveFails .null).2 (by decide)
    have hmeasured := hsearch.order _ fun _ _ => costed_of_ok
    change _ = [[Slot.kept 0, Slot.kept 1, Slot.inserted, Slot.kept 5],
      [Slot.kept 0, Slot.kept 1, Slot.inserted, Slot.kept 4, Slot.kept 5]] at hmeasured
    obtain ⟨-, hfailed⟩ := hsearch.stopped.stops [_] _ [] _ hmeasured rfl
    intro p
    obtain ⟨q, hq, haccounted⟩ := hrun p
    rw [(haccounted.raises _).mpr hfailed] at hq
    exact ⟨q, hq, haccounted.measured.trans (by rw [hmeasured]; rfl)⟩

end Selection

end ChatWindow
