import CheckConstraints.Number.Binary64
import CheckConstraints.Number.Decimal

/-!
Descriptors: what a check constraint demands of a row. A raw descriptor is a trusted predicate text,
an in-set descriptor lets a column take one of some values, and a conjunction demands all of its
parts, in their order.
-/

namespace CheckConstraints

open Number (Binary64 Decimal)

inductive Scalar where
  | bool (b : Bool)
  | int (n : Int)
  | float (x : Binary64)
  | decimal (d : Decimal)
  | text (s : String)
deriving DecidableEq, Repr

inductive Descriptor where
  | raw (text : String)
  | inSet (column : String) (values : List Scalar)
  | all (parts : List Descriptor)
deriving Repr

namespace Descriptor

mutual

def decEq : (d e : Descriptor) → Decidable (d = e)
  | .raw s, .raw t =>
    if h : s = t then isTrue (by rw [h]) else isFalse (by simp [h])
  | .inSet c vs, .inSet c' vs' =>
    if h : c = c' ∧ vs = vs' then isTrue (by rw [h.1, h.2]) else isFalse (by simpa using h)
  | .all ps, .all qs =>
    match decEqParts ps qs with
    | isTrue h => isTrue (by rw [h])
    | isFalse h => isFalse (by simpa using h)
  | .raw _, .inSet _ _ | .raw _, .all _ | .inSet _ _, .raw _ | .inSet _ _, .all _
  | .all _, .raw _ | .all _, .inSet _ _ => isFalse (by simp)

def decEqParts : (ps qs : List Descriptor) → Decidable (ps = qs)
  | [], [] => isTrue rfl
  | [], _ :: _ | _ :: _, [] => isFalse (by simp)
  | p :: ps, q :: qs =>
    match decEq p q, decEqParts ps qs with
    | isTrue h, isTrue h' => isTrue (by rw [h, h'])
    | isFalse h, _ => isFalse (by simp [h])
    | _, isFalse h => isFalse (by simp [h])

end

instance : DecidableEq Descriptor := decEq

instance : Inhabited Descriptor := ⟨.raw ""⟩

end Descriptor

end CheckConstraints
