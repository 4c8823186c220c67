import CheckConstraints.World

/-!
The outcome of a step of an operation: an answer or a fault, the operation afterwards, and the world
afterwards.
-/

namespace CheckConstraints

/-- The outcome of a step of `σ` that answers with `α`. -/
structure Outcome (σ α : Type) where
  result : Except Fault α
  subject : σ
  world : World

namespace Outcome

def failed {σ α : Type} (fault : Fault) (subject : σ) (world : World) : Outcome σ α :=
  ⟨.error fault, subject, world⟩

/-- The same outcome seen as a step of something that the subject belongs to. -/
def map {σ τ α β : Type} (onSubject : σ → τ) (onResult : α → β) (o : Outcome σ α) :
    Outcome τ β :=
  ⟨o.result.map onResult, onSubject o.subject, o.world⟩

end Outcome

end CheckConstraints
