import CheckConstraints.Logging
import CheckConstraints.Statement
import Mathlib.Data.Multiset.AddSub

/-!
Events as a reader of the log finds them: a title and fields. An added constraint and a removed one
tell of their statements, and a reversal tells of the statement that undoes its operation. A warning
tells of a removal that cannot be rolled back. Nothing else in a log is about the schema.
-/

namespace CheckConstraints

namespace Event

/-- The text in a field of the event. -/
def text? (e : Event) (field : String) : Option String :=
  match e.details.lookup field with
  | some (.text s) => some s
  | _ => none

/-- Whether the event is of a kind that tells of a statement. -/
def tells (e : Event) : Bool :=
  e.title == "check_constraint.added" || e.title == "check_constraint.removed"
    || e.title == "check_constraint.reversed"

def creation? (e : Event) : Option Statement := do
  return .create (← e.text? "table") (← e.text? "name") (← e.text? "predicate")

def dropping? (e : Event) : Option Statement := do
  return .drop (← e.text? "table") (← e.text? "name")

/-- The statement that the event tells of. The field of a reversal says what was reversed. -/
def statement? (e : Event) : Option Statement :=
  match e.title, e.text? "operation" with
  | "check_constraint.added", _ => e.creation?
  | "check_constraint.removed", _ => e.dropping?
  | "check_constraint.reversed", some "add" => e.dropping?
  | "check_constraint.reversed", some "remove" => e.creation?
  | _, _ => none

/-- Whether the event warns of a removal that cannot be rolled back. -/
def warns (e : Event) : Bool := e.title == "check_constraint.irreversible" && e.severity == .warning

/-- The table and the name of the removal that the event warns of. -/
def warning? (e : Event) : Option (String × String) :=
  if e.warns then do
    return (← e.text? "table", ← e.text? "name")
  else none

variable {table name predicate : String} {reversible : Bool}

@[simp] theorem statement?_added :
    (added table name predicate).statement? = some (.create table name predicate) := rfl

@[simp] theorem statement?_removed :
    (removed table name reversible).statement? = some (.drop table name) := rfl

@[simp] theorem statement?_addReversed :
    (addReversed table name).statement? = some (.drop table name) := rfl

@[simp] theorem statement?_removeReversed :
    (removeReversed table name predicate).statement? = some (.create table name predicate) := rfl

/-- No event that should tell of a statement lacks one, and no other one has one. -/
theorem tells_eq (e : Event) : e.tells = e.statement?.isSome := by
  cases e <;> rfl

theorem warns_eq (e : Event) : e.warns = e.warning?.isSome := by
  cases e <;> rfl

theorem warning?_of_tells {e : Event} (tells : e.tells = true) : e.warning? = none := by
  cases e <;> first | rfl | cases tells

theorem silent_of_naming {e : Event} (naming : e.reporter = .naming) :
    e.statement? = none ∧ e.warning? = none := by
  cases e <;> first | exact ⟨rfl, rfl⟩ | cases naming

end Event

namespace LogEntry

/-- The statements that the entries of a log tell of. -/
def told (entries : List LogEntry) : List Statement := entries.filterMap (·.event.statement?)

/-- The removals that the entries of a log warn of, each as often as they do. -/
def warned (entries : List LogEntry) : Multiset (String × String) :=
  entries.filterMap (·.event.warning?)

variable {entries later : List LogEntry}

@[simp] theorem told_append : told (entries ++ later) = told entries ++ told later :=
  List.filterMap_append

@[simp] theorem warned_append : warned (entries ++ later) = warned entries + warned later := by
  simp [warned]

@[simp] theorem told_singleton (entry : LogEntry) :
    told [entry] = entry.event.statement?.toList := by
  cases read : entry.event.statement? <;> simp [told, read]

@[simp] theorem warned_singleton (entry : LogEntry) :
    warned [entry] = ↑entry.event.warning?.toList := by
  cases read : entry.event.warning? <;> simp [warned, read]

/-- Read one by one, the entries of the three kinds give the statements. -/
theorem map_statement? (entries : List LogEntry) :
    (entries.filter (·.event.tells)).map (·.event.statement?) = (told entries).map some := by
  have kinds : (fun entry : LogEntry => entry.event.tells) =
      Option.isSome ∘ fun entry => entry.event.statement? :=
    funext fun entry => entry.event.tells_eq
  rw [told, List.map_filterMap_some_eq_filter_map_isSome, List.filter_map, kinds]

/-- Read one by one, the warnings give their places. -/
theorem map_warning? (entries : List LogEntry) :
    (entries.filter (·.event.warns)).map (·.event.warning?) =
      (entries.filterMap (·.event.warning?)).map some := by
  have kinds : (fun entry : LogEntry => entry.event.warns) =
      Option.isSome ∘ fun entry => entry.event.warning? :=
    funext fun entry => entry.event.warns_eq
  rw [List.map_filterMap_some_eq_filter_map_isSome, List.filter_map, kinds]

theorem told_eq_nil_iff : told entries = [] ↔ ∀ entry ∈ entries, entry.event.tells = false := by
  simp [told, List.filterMap_eq_nil_iff, Event.tells_eq]

theorem silent_of_naming (naming : ∀ entry ∈ entries, entry.event.reporter = .naming) :
    told entries = [] ∧ warned entries = 0 := by
  have silent := fun entry member => Event.silent_of_naming (naming entry member)
  constructor
  · exact List.filterMap_eq_nil_iff.mpr fun entry member => (silent entry member).1
  · have none_warned : entries.filterMap (·.event.warning?) = [] :=
      List.filterMap_eq_nil_iff.mpr fun entry member => (silent entry member).2
    simp [warned, none_warned]

end LogEntry

/-- The entry that logging passed on, if it is not a message of the rest of the application. -/
def LogOutput.entry? : LogOutput → Option LogEntry
  | .recorded entry | .printed entry => some entry
  | .message _ => none

namespace Logging

/-- No level that a reporter keeps, or would find now, is above the lowest one of events. -/
def CapturesAll (l : Logging) : Prop :=
  ∀ root, l.root = some root → ∀ reporter, (l.kept reporter).getD root ≤ Severity.debug.level

theorem debug_level_le (s : Severity) : Severity.debug.level ≤ s.level := by
  cases s <;> decide

theorem kept_keep (l : Logging) (reporter other : Reporter) (level : Int) :
    (l.keep reporter level).kept other = if other = reporter then some level else l.kept other := by
  cases reporter <;> cases other <;> rfl

theorem CapturesAll.deliver {l : Logging} (all : l.CapturesAll) (entry : LogEntry) :
    ((l.deliver entry).1.bind LogOutput.entry?) = some entry ∧ (l.deliver entry).2.CapturesAll := by
  cases configured : l.root with
  | none => simp [Logging.deliver, configured, LogOutput.entry?, all]
  | some root =>
      have low := all root configured entry.event.reporter
      have passes := Int.le_trans low (debug_level_le entry.event.severity)
      refine ⟨by simp [Logging.deliver, configured, passes, LogOutput.entry?], ?_⟩
      intro root' configured' reporter
      have same : root' = root := by
        cases kind : entry.event.reporter <;>
          simpa [Logging.deliver, configured, keep, kind, eq_comm] using configured'
      subst same
      simp only [Logging.deliver, configured, kept_keep]
      split
      · exact low
      · exact all root' configured reporter

/-- Where every level is captured, all entries are passed on in their order. -/
theorem CapturesAll.deliverAll {l : Logging} (all : l.CapturesAll) (entries : List LogEntry) :
    (l.deliverAll entries).1.filterMap LogOutput.entry? = entries := by
  induction entries generalizing l with
  | nil => rfl
  | cons entry entries ih =>
      obtain ⟨passed, still⟩ := all.deliver entry
      have later := ih still
      simp only [Logging.deliverAll, List.filterMap_append, later]
      cases out : (l.deliver entry).1 with
      | none => simp [out] at passed
      | some output =>
          rw [out, Option.bind_some] at passed
          simp [passed]

end Logging

end CheckConstraints
