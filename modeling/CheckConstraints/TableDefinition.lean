import CheckConstraints.Descriptor.Shorthand
import CheckConstraints.World

/-!
Constraints inside the definition of a table. They are named and compiled like those that an add
creates, but the statement is that of the table; only the registry learns of them, if it is asked
to.
-/

namespace CheckConstraints

namespace World

/-- A constraint for the definition of a table. With `recorded` its name has to be free in the
registry, which it enters; without, every name is free. -/
def define (env : Env) (table : String) (value : Script.Value) (explicit : Option String)
    (recorded : Bool) (source : Option SuffixSource) (w : World) :
    Except Fault Constraint × World :=
  match Descriptor.ofShorthand value with
  | .error cause => (.error (.malformed cause), w)
  | .ok descriptor =>
    match descriptor.compile with
    | .error cause => (.error (.malformed cause), w)
    | .ok predicate =>
      let taken := if recorded then w.registry.names table else []
      match w.resolve env table explicit taken source with
      | (.error fault, w) => (.error fault, w)
      | (.ok name, w) =>
        let constraint : Constraint := ⟨name, table, predicate, some descriptor⟩
        if recorded then
          match w.registry.add constraint with
          | .error fault => (.error fault, w)
          | .ok registry => (.ok constraint, { w with registry })
        else (.ok constraint, w)

end World

end CheckConstraints
