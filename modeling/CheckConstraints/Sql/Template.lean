import CheckConstraints.Text.Word

/-!
Text templates: SQL text in which `:name` stands for a parameter and `\:` for a colon. Predicates
have no parameters, so each of their colons is escaped; writing a template out undoes the escapes.
-/

namespace CheckConstraints.Sql.Template

def escape (cs : List Char) : List Char := cs.flatMap fun c => if c = ':' then ['\\', ':'] else [c]

def isNameChar (c : Char) : Bool := Text.isWord c || c == '$'

/-- The parameters of a template. A colon starts a parameter unless a colon, a word character or a
backslash comes before it; the name goes on as far as it can, and no colon may follow it. -/
def parameters (before : Option Char) : List Char → List (List Char)
  | [] => []
  | c :: cs =>
    let free := match before with
      | none => true
      | some b => !(b == ':' || b == '\\' || Text.isWord b)
    let name := cs.takeWhile isNameChar
    let here := c == ':' && free && !name.isEmpty && (cs.dropWhile isNameChar).head? != some ':'
    if here then name :: parameters (some c) cs else parameters (some c) cs

/-- Writes a template out. A backslash before a colon is dropped, unless the characters of a name
after the colon are followed by another colon. -/
def expand : List Char → List Char
  | [] => []
  | '\\' :: ':' :: cs =>
    if (cs.dropWhile isNameChar).head? = some ':' then '\\' :: ':' :: expand cs
    else ':' :: expand cs
  | c :: cs => c :: expand cs

end CheckConstraints.Sql.Template
