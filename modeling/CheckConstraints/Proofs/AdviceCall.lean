import CheckConstraints.Fault
import CheckConstraints.Proofs.QuotedLiteral

/-!
The call that a refusal proposes, as a migration script reads it once it is pasted there. Its three
arguments are text literals, and they are read as the table, the name and the expression of the
refusal, whatever characters these hold. Refusals that differ therefore propose different calls and
have different messages.
-/

namespace CheckConstraints.IrreversibleRemoval

open Text (quoted read?_quoted text?_quoted)
open Text.Literal (read? text?)

/-- What comes after a given text, if it comes next. -/
def past? (front : String) (cs : List Char) : Option (List Char) :=
  if front.toList <+: cs then some (cs.drop front.toList.length) else none

theorem past?_append (front : String) (rest : List Char) :
    past? front (front.toList ++ rest) = some rest := by
  rw [past?, if_pos (List.prefix_append _ _), List.drop_left]

/-- Reads the call of a removal from left to right: three literals between the parentheses, with a
comma and a space after the first and after the second. -/
def ofCall? (names : String → Option Char) (call : String) : Option IrreversibleRemoval := do
  let cs ← past? "remove_check_constraint(" call.toList
  let (table, cs) ← read? names cs
  let cs ← past? ", " cs
  let (name, cs) ← read? names cs
  let cs ← past? ", " cs
  let (expression, cs) ← read? names cs
  if cs = [')'] then some ⟨table, name, expression⟩ else none

theorem ofCall?_call (names : String → Option Char) (r : IrreversibleRemoval) :
    ofCall? names r.call = some r := by
  have separated : ∀ rest : List Char, ∀ q ∈ (", ".toList ++ rest).head?, q ≠ '\'' ∧ q ≠ '"' := by
    simp
  have closed : ∀ q ∈ ")".toList.head?, q ≠ '\'' ∧ q ≠ '"' := by simp
  have written : r.call.toList = "remove_check_constraint(".toList ++ ((quoted r.table).toList ++
      (", ".toList ++ ((quoted r.name).toList ++ (", ".toList ++ ((quoted r.expression).toList ++
        ")".toList))))) := by
    unfold call
    simp only [String.toList_append, List.append_assoc]
  rw [ofCall?, written, past?_append]
  -- What follows a literal never begins with a quote, so each is read up to its own end.
  simp only [Option.bind_eq_bind, Option.bind_some, read?_quoted names _ (separated _),
    past?_append, read?_quoted names _ closed]
  rfl

theorem message_inj {r s : IrreversibleRemoval} : s.message = r.message ↔ s.call = r.call := by
  unfold message
  rw [String.append_left_inj, String.append_right_inj]

/-- The call of a refusal with a given expression is written with three text literals, which are
read as the table, the name and the expression, alone as well as one after the other where they
stand. No refusal with another table, name or expression has the same call or the same message. -/
theorem call_reads_back (names : String → Option Char) (table name expression : String)
    (given : expression ≠ "") :
    let r := of table name (some expression)
    (∃ t n e, r.call = "remove_check_constraint(" ++ t ++ ", " ++ n ++ ", " ++ e ++ ")" ∧
      text? names t = some table ∧ text? names n = some name ∧ text? names e = some expression) ∧
    ofCall? names r.call = some ⟨table, name, expression⟩ ∧
    (∀ s : IrreversibleRemoval, s.call = r.call ↔ s = ⟨table, name, expression⟩) ∧
    ∀ s : IrreversibleRemoval, s.message = r.message ↔ s = ⟨table, name, expression⟩ := by
  intro r
  have fields : r = ⟨table, name, expression⟩ := by simp [r, of, given]
  rw [fields]
  have same_call : ∀ s : IrreversibleRemoval,
      s.call = (⟨table, name, expression⟩ : IrreversibleRemoval).call ↔
        s = ⟨table, name, expression⟩ := by
    intro s
    refine ⟨fun same => ?_, congrArg call⟩
    have read := ofCall?_call names s
    rw [same, ofCall?_call] at read
    exact (Option.some.inj read).symm
  refine ⟨⟨quoted table, quoted name, quoted expression, rfl, ?_⟩, ofCall?_call names _,
    same_call, fun s => message_inj.trans (same_call s)⟩
  exact ⟨text?_quoted names table, text?_quoted names name, text?_quoted names expression⟩

/-- Quotes of both kinds, a backslash, a line end, a separator of the call itself, a letter that is
shown and characters that are not. -/
theorem call_reads_back_despite_quotes :
    let expression := "title <> 'it\\s, \"é\"'\n\x00\u200b)"
    let r := of "o'clock" "say \"no\"" (some expression)
    expression ≠ "" ∧
    r.call = "remove_check_constraint(\"o'clock\", 'say \"no\"', " ++
      "'title <> \\'it\\\\s, \"é\"\\'\\n\\x00\\u200b)')" ∧
    ofCall? (fun _ => none) r.call = some ⟨"o'clock", "say \"no\"", expression⟩ ∧
    ∀ s : IrreversibleRemoval, s.message = r.message ↔
      s = ⟨"o'clock", "say \"no\"", expression⟩ := by
  intro expression r
  have given : expression ≠ "" := by decide
  obtain ⟨_, read, _, message⟩ :=
    call_reads_back (fun _ => none) "o'clock" "say \"no\"" expression given
  exact ⟨given, by decide +kernel, read, message⟩

end CheckConstraints.IrreversibleRemoval
