import ChatWindow.Model
import Mathlib.Data.List.Induction

/-!
# Registered limits

Limits are registered one after the other, and one that is negative is refused. So what is
registered for a family is what was accepted for it last, and the limit of a model that sets none
itself is the smallest of those of its families.
-/

namespace ChatWindow

namespace Registry

/-- A registration that is refused leaves the limits as they are. -/
def attempt (r : Registry) (call : String × Int) : Registry :=
  match r.registerValue call.1 (.int call.2) with
  | .ok s => s
  | .error _ => r

def after (calls : List (String × Int)) : Registry := calls.foldl attempt {}

def accepts (family : String) (call : String × Int) : Bool := call.1 == family && 0 ≤ call.2

/-- What was accepted last for the family; one limit is there from the start. -/
def lastAccepted (calls : List (String × Int)) (family : String) : Option Int :=
  (((("mllama", 1) :: calls).filter (accepts family)).getLast?).map Prod.snd

theorem register_of_neg (r : Registry) (family : String) {limit : Int} (h : limit < 0) :
    r.register family limit = .error (.badValue .negativeLimit) := if_pos h

theorem register_of_nonneg (r : Registry) (family : String) {limit : Int} (h : 0 ≤ limit) :
    r.register family limit = .ok { limits := (family, limit.toNat) :: r.limits } :=
  if_neg (Int.not_lt.mpr h)

theorem registerValue_int (r : Registry) (family : String) (limit : Int) :
    r.registerValue family (.int limit) = r.register family limit := by
  have hless : (Value.int limit).lessThan 0 = .ok (compare limit 0 == .lt) := rfl
  rw [registerValue, hless]
  by_cases h : limit < 0
  · rw [r.register_of_neg family h, Int.compare_eq_lt.mpr h]
    rfl
  · have hcompare : (compare limit 0 == .lt) = false :=
      beq_eq_false_iff_ne.mpr fun hlt => h (Int.compare_eq_lt.mp hlt)
    rw [hcompare]
    rfl

theorem attempt_of_neg (r : Registry) (family : String) {limit : Int} (h : limit < 0) :
    r.attempt (family, limit) = r := by
  rw [attempt, registerValue_int, r.register_of_neg family h]

theorem limitOf?_attempt (r : Registry) (call : String × Int) (family : String) :
    (r.attempt call).limitOf? family =
      if accepts family call then some call.2.toNat else r.limitOf? family := by
  obtain ⟨name, limit⟩ := call
  by_cases hneg : limit < 0
  · have hrefused : ¬accepts family (name, limit) = true := by
      simp [accepts, hneg]
    rw [if_neg hrefused, r.attempt_of_neg name hneg]
  · have hnonneg : 0 ≤ limit := Int.not_lt.mp hneg
    rw [attempt, registerValue_int, r.register_of_nonneg name hnonneg]
    by_cases hname : name = family
    · subst hname
      simp [accepts, hnonneg, limitOf?]
    · have hother : (family == name) = false := beq_eq_false_iff_ne.mpr (Ne.symm hname)
      simp [accepts, hname, limitOf?, List.lookup_cons, hother]

theorem after_concat (calls : List (String × Int)) (call : String × Int) :
    after (calls ++ [call]) = (after calls).attempt call := by
  rw [after, List.foldl_append]
  rfl

theorem lastAccepted_concat (calls : List (String × Int)) (call : String × Int)
    (family : String) : lastAccepted (calls ++ [call]) family =
      if accepts family call then some call.2 else lastAccepted calls family := by
  rw [lastAccepted, ← List.cons_append, List.filter_append]
  by_cases h : accepts family call = true
  · simp [h]
  · simp [h, lastAccepted]

theorem limitOf?_after (calls : List (String × Int)) (family : String) :
    ((after calls).limitOf? family).map Int.ofNat = lastAccepted calls family := by
  -- The last call decides unless it is refused, so calls are taken off at the end.
  induction calls using List.reverseRecOn with
  | nil =>
    by_cases h : family = "mllama"
    · subst h
      rfl
    · have hother : (family == "mllama") = false := beq_eq_false_iff_ne.mpr h
      have hrefused : ¬accepts family ("mllama", 1) = true := by simp [accepts, Ne.symm h]
      have hnone : lastAccepted [] family = none := by simp [lastAccepted, hrefused]
      rw [hnone]
      simp [after, limitOf?, List.lookup_cons, hother]
  | append_singleton calls call ih =>
    rw [after_concat, limitOf?_attempt, lastAccepted_concat]
    split
    · next haccepts =>
      have hnonneg : 0 ≤ call.2 := by simp_all [accepts]
      exact congrArg some (Int.toNat_of_nonneg hnonneg)
    · exact ih

example : lastAccepted [("llava", 3), ("llava", -1), ("mllama", 0)] "llava" = some 3 := by decide

theorem limitOf?_after_eq_some_iff {calls : List (String × Int)} {family : String} {n : Nat} :
    (after calls).limitOf? family = some n ↔ lastAccepted calls family = some (n : Int) := by
  rw [← limitOf?_after]
  refine ⟨fun h => congrArg (Option.map Int.ofNat) h, fun h => ?_⟩
  obtain ⟨k, hk, hn⟩ := Option.map_eq_some_iff.mp h
  rw [hk, Int.ofNat_inj.mp hn]

theorem limitOf?_after_eq_none_iff {calls : List (String × Int)} {family : String} :
    (after calls).limitOf? family = none ↔ lastAccepted calls family = none := by
  rw [← limitOf?_after, Option.map_eq_none_iff]

theorem nonneg_of_lastAccepted {calls : List (String × Int)} {family : String} {k : Int}
    (h : lastAccepted calls family = some k) : 0 ≤ k := by
  rw [← limitOf?_after, Option.map_eq_some_iff] at h
  obtain ⟨n, -, rfl⟩ := h
  exact Int.natCast_nonneg n

theorem limit?_eq_some_iff {r : Registry} {families : List String} {n : Nat} :
    r.limit? families = some n ↔ (∃ family ∈ families, r.limitOf? family = some n) ∧
      ∀ family ∈ families, ∀ k, r.limitOf? family = some k → n ≤ k := by
  rw [limit?, List.min?_eq_some_iff, List.mem_filterMap]
  refine and_congr_right fun _ => ⟨fun h family hmem k hk => ?_, fun h k hk => ?_⟩
  · exact h k (List.mem_filterMap.mpr ⟨family, hmem, hk⟩)
  · obtain ⟨family, hmem, hfamily⟩ := List.mem_filterMap.mp hk
    exact h family hmem k hfamily

theorem limit?_eq_none_iff {r : Registry} {families : List String} :
    r.limit? families = none ↔ ∀ family ∈ families, r.limitOf? family = none := by
  rw [limit?, List.min?_eq_none_iff, List.filterMap_eq_nil_iff]

theorem limit?_of_subset {r : Registry} {families others : List String}
    (hsubset : ∀ family ∈ families, family ∈ others) {n : Nat}
    (h : r.limit? families = some n) : ∃ k ≤ n, r.limit? others = some k := by
  obtain ⟨⟨family, hmem, hfamily⟩, -⟩ := limit?_eq_some_iff.mp h
  cases hothers : r.limit? others with
  | none =>
    have hnone := limit?_eq_none_iff.mp hothers family (hsubset family hmem)
    rw [hfamily] at hnone
    cases hnone
  | some k =>
    exact ⟨k, (limit?_eq_some_iff.mp hothers).2 family (hsubset family hmem) n hfamily, rfl⟩

end Registry

namespace Model

variable {m : Model} {calls : List (String × Int)}

/-- The limit the model sets itself, be it zero, or else the smallest one that was accepted last
for one of its families. -/
inductive Limited (m : Model) (calls : List (String × Int)) (n : Nat) : Prop
  | own (h : m.maxImages = some n)
  | family (unset : m.maxImages = none) {family : String} (mem : family ∈ m.families)
      (accepted : Registry.lastAccepted calls family = some (n : Int))
      (least : ∀ other ∈ m.families, ∀ k, Registry.lastAccepted calls other = some k → n ≤ k)

theorem imageLimit_eq_some_iff {n : Nat} :
    m.imageLimit (Registry.after calls) = some n ↔ m.Limited calls n := by
  rw [imageLimit]
  cases hown : m.maxImages with
  | some k =>
    rw [Option.some_or]
    refine ⟨fun h => .own (hown.trans h), fun h => ?_⟩
    cases h with
    | own h => exact hown.symm.trans h
    | family unset => exact absurd (hown.symm.trans unset) (Option.some_ne_none k)
  | none =>
    rw [Option.none_or, Registry.limit?_eq_some_iff]
    constructor
    · rintro ⟨⟨family, hmem, hfamily⟩, hleast⟩
      have haccepted := Registry.limitOf?_after_eq_some_iff.mp hfamily
      refine .family hown hmem haccepted fun other hother k hk => ?_
      obtain ⟨k, rfl⟩ := Int.eq_ofNat_of_zero_le (Registry.nonneg_of_lastAccepted hk)
      exact Int.ofNat_le.mpr (hleast other hother k (Registry.limitOf?_after_eq_some_iff.mpr hk))
    · intro h
      cases h with
      | own h => exact absurd (hown.symm.trans h).symm (Option.some_ne_none n)
      | family unset hmem accepted least =>
        have hfamily := Registry.limitOf?_after_eq_some_iff.mpr accepted
        refine ⟨⟨_, hmem, hfamily⟩, fun other hother k hk => ?_⟩
        exact Int.ofNat_le.mp (least other hother k (Registry.limitOf?_after_eq_some_iff.mp hk))

theorem imageLimit_eq_none_iff :
    m.imageLimit (Registry.after calls) = none ↔ m.maxImages = none ∧
      ∀ family ∈ m.families, Registry.lastAccepted calls family = none := by
  rw [imageLimit, Option.or_eq_none_iff, Registry.limit?_eq_none_iff]
  simp only [Registry.limitOf?_after_eq_none_iff]

theorem imageLimit_of_subset {r : Registry} {families : List String}
    (hsubset : ∀ family ∈ m.families, family ∈ families) {n : Nat}
    (h : m.imageLimit r = some n) : ∃ k ≤ n, { m with families }.imageLimit r = some k := by
  rw [imageLimit] at h ⊢
  cases hown : m.maxImages with
  | some k =>
    rw [hown] at h
    exact ⟨n, Nat.le_refl n, h⟩
  | none =>
    rw [hown] at h
    exact Registry.limit?_of_subset hsubset h

end Model

end ChatWindow
