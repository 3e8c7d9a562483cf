/-!
# Inquiries

An inquiry comes to an answer by asking what candidates cost, one after the other, and may remark on
what it has found. With a cost for every candidate it can be evaluated. It can also be run with a
measurement that may fail; then each candidate is measured at most once, and a ledger says which
ones were, and what was remarked.
-/

namespace ChatWindow

inductive Remark where
  | checked (cost : Int)
  | skeletonTooLarge

inductive Inquiry (κ α : Type) where
  | answer (a : α)
  | ask (candidate : κ) (next : Int → Inquiry κ α)
  | remark (r : Remark) (next : Inquiry κ α)

/-- Costs that are known, and the candidates that were measured for them, in order. -/
structure Ledger (κ : Type) where
  known : List (κ × Int) := []
  measured : List κ := []
  remarks : List Remark := []

namespace Inquiry

variable {κ α β ε : Type}

def bind : Inquiry κ α → (α → Inquiry κ β) → Inquiry κ β
  | .answer a, f => f a
  | .ask k next, f => .ask k fun c => (next c).bind f
  | .remark r next, f => .remark r (next.bind f)

def map (f : α → β) (q : Inquiry κ α) : Inquiry κ β := q.bind fun a => .answer (f a)

def eval (cost : κ → Int) : Inquiry κ α → α
  | .answer a => a
  | .ask k next => (next (cost k)).eval cost
  | .remark _ next => next.eval cost

def asked (cost : κ → Int) : Inquiry κ α → List κ
  | .answer _ => []
  | .ask k next => k :: (next (cost k)).asked cost
  | .remark _ next => next.asked cost

def remarked (cost : κ → Int) : Inquiry κ α → List Remark
  | .answer _ => []
  | .ask k next => (next (cost k)).remarked cost
  | .remark r next => r :: next.remarked cost

@[simp] theorem eval_answer (cost : κ → Int) (a : α) : (answer a).eval cost = a := rfl

@[simp] theorem eval_ask (cost : κ → Int) (k : κ) (next : Int → Inquiry κ α) :
    (ask k next).eval cost = (next (cost k)).eval cost := rfl

@[simp] theorem eval_remark (cost : κ → Int) (r : Remark) (q : Inquiry κ α) :
    (remark r q).eval cost = q.eval cost := rfl

@[simp] theorem asked_remark (cost : κ → Int) (r : Remark) (q : Inquiry κ α) :
    (remark r q).asked cost = q.asked cost := rfl

@[simp] theorem eval_bind (cost : κ → Int) (q : Inquiry κ α) (f : α → Inquiry κ β) :
    (q.bind f).eval cost = (f (q.eval cost)).eval cost := by
  induction q with
  | answer a => rfl
  | ask k next ih => simp [bind, ih]
  | remark r next ih => simp [bind, ih]

@[simp] theorem eval_map (cost : κ → Int) (f : α → β) (q : Inquiry κ α) :
    (q.map f).eval cost = f (q.eval cost) := by simp [map]

@[simp] theorem asked_bind (cost : κ → Int) (q : Inquiry κ α) (f : α → Inquiry κ β) :
    (q.bind f).asked cost = q.asked cost ++ (f (q.eval cost)).asked cost := by
  induction q with
  | answer a => rfl
  | ask k next ih => simp [bind, asked, ih]
  | remark r next ih => simp [bind, ih]

end Inquiry

namespace Ledger

variable {κ α ε : Type} [BEq κ]

def cost? (l : Ledger κ) (k : κ) : Option Int := l.known.lookup k

def look (measure : κ → Except ε Int) (k : κ) (l : Ledger κ) : Except ε Int × Ledger κ :=
  match l.cost? k with
  | some c => (.ok c, l)
  | none =>
    match measure k with
    | .ok c => (.ok c, { l with known := (k, c) :: l.known, measured := l.measured ++ [k] })
    | .error e => (.error e, { l with measured := l.measured ++ [k] })

end Ledger

namespace Inquiry

variable {κ α ε : Type} [BEq κ]

def run (measure : κ → Except ε Int) : Inquiry κ α → Ledger κ → Except ε α × Ledger κ
  | .answer a, l => (.ok a, l)
  | .ask k next, l =>
    match l.look measure k with
    | (.ok c, l) => (next c).run measure l
    | (.error e, l) => (.error e, l)
  | .remark r next, l => next.run measure { l with remarks := l.remarks ++ [r] }

end Inquiry

end ChatWindow
