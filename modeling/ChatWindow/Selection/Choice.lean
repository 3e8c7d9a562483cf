import ChatWindow.Selection.Inquiry
import ChatWindow.Selection.Layout

/-!
# Choosing what to keep

Everything is kept if it fits, or if there are no intermediates to leave out. Otherwise as many of
the latest intermediates are kept as fit behind the marker, found by adding one older message at a
time; the first that does not fit ends the search. If not even the skeleton fits, it is kept all
the same.
-/

namespace ChatWindow

structure Choice where
  slots : Candidate
  markerInserted : Bool

namespace Layout

/-- The longest suffix that fits. `older` are the intermediates not tried yet, latest first. -/
def fill (l : Layout) (window : Int) : List Nat → List Nat → Inquiry Candidate (List Nat)
  | [], suffix => .answer suffix
  | i :: older, suffix =>
    .ask (l.withSuffix (i :: suffix)) fun cost =>
      if window < cost then .answer suffix else l.fill window older (i :: suffix)

def choose (l : Layout) (window : Int) : Inquiry Candidate Choice :=
  .ask l.full fun cost => .remark (.checked cost) <|
    if cost ≤ window ∨ l.intermediates = [] then .answer ⟨l.full, false⟩
    else
      .ask l.skeleton fun least =>
        if window < least then .remark .skeletonTooLarge (.answer ⟨l.skeleton, l.marker.isNone⟩)
        else
          (l.fill window l.intermediates.reverse []).map fun suffix =>
            ⟨l.withSuffix suffix, l.marker.isNone⟩

end Layout

structure Outcome where
  choice : Choice
  intermediates : List Nat
  finalCost : Int
  givenCost : Int

namespace Outcome

def dropped (o : Outcome) : List Nat :=
  o.intermediates.filter fun i => !o.choice.slots.contains (.kept i)

end Outcome

def identity (n : Nat) : Candidate := keeping (List.range n)

def choose (p : Parts) (window : Int) : Inquiry Candidate Choice :=
  match p.layout? with
  | none => .answer ⟨keeping p.system, false⟩
  | some l => l.choose window

def Parts.intermediates (p : Parts) : List Nat :=
  match p.layout? with
  | none => []
  | some l => l.intermediates

def outcome (standings : List Standing) (window : Int) : Inquiry Candidate Outcome :=
  (choose (parts standings) window).bind fun choice =>
    .ask choice.slots fun finalCost =>
      .ask (identity standings.length) fun givenCost =>
        .answer ⟨choice, (parts standings).intermediates, finalCost, givenCost⟩

end ChatWindow
