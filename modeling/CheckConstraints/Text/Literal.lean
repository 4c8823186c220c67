/-!
Text literals of a migration script: how what stands between two quotes is read. A literal ends on
its line, at the first quote of its own kind that no escape takes in. A backslash begins an escape:
a letter of its own, a number in hexadecimal or octal digits, or the name of a character. A
backslash that begins none of these stands for itself. Which names characters have is left open.
-/

namespace CheckConstraints.Text.Literal

/-- The value of a hexadecimal digit of either case. -/
def hexValue? (c : Char) : Option Nat :=
  (List.range 16).find? fun n => Nat.digitChar n == c.toLower

def hexNumber? (digits : List Char) : Option Nat :=
  digits.foldlM (fun n c => (hexValue? c).map (16 * n + ·)) 0

/-- The character with a number. Surrogates and numbers past the last plane are no characters. -/
def character? (n : Nat) : Option Char :=
  if n.isValidChar then some (Char.ofNat n) else none

/-- How many hexadecimal digits come after the letter of an escape. -/
def hexWidth? : Char → Option Nat
  | 'x' => some 2
  | 'u' => some 4
  | 'U' => some 8
  | _ => none

/-- The escapes of one character. A line end after a backslash only continues the literal. -/
def shortEscape? : Char → Option (List Char)
  | '\\' => some ['\\']
  | '\'' => some ['\'']
  | '"' => some ['"']
  | 'a' => some ['\x07']
  | 'b' => some ['\x08']
  | 't' => some ['\t']
  | 'n' => some ['\n']
  | 'v' => some ['\x0b']
  | 'f' => some ['\x0c']
  | 'r' => some ['\r']
  | '\n' => some []
  | _ => none

def isOctal (c : Char) : Bool := decide ('0' ≤ c) && decide (c ≤ '7')

/-- A line of a script holds neither a line end nor the character with number zero. -/
def breaksLine (c : Char) : Bool := c == '\n' || c == '\r' || c == '\x00'

/-- The character that is named between braces, and how many characters its name takes with them. -/
def named? (names : String → Option Char) : List Char → Option (Char × Nat)
  | '{' :: cs =>
    let name := cs.takeWhile (· != '}')
    if name.length < cs.length then
      (names (String.ofList name)).map fun c => (c, name.length + 2)
    else none
  | _ => none

/-- What the escape that begins here, after its backslash, stands for, and how many characters it
takes. -/
def escape? (names : String → Option Char) : List Char → Option (List Char × Nat)
  | [] => none
  | c :: cs =>
    match hexWidth? c, shortEscape? c with
    | some width, _ =>
      if width ≤ cs.length then
        ((hexNumber? (cs.take width)).bind character?).map fun d => ([d], width + 1)
      else none
    | none, some text => some (text, 1)
    | none, none =>
      if isOctal c then
        let digits := c :: (cs.take 2).takeWhile isOctal
        some ([Char.ofNat (Nat.ofDigitChars 8 digits 0)], digits.length)
      else if c = 'N' then (named? names cs).map fun (d, width) => ([d], width + 1)
      else if breaksLine c then none
      else some (['\\', c], 1)

/-- The text of a literal whose opening quote is read, and what comes after its closing quote. -/
def body (names : String → Option Char) (quote : Char) : List Char → Option (List Char × List Char)
  | [] => none
  | c :: cs =>
    if c = quote then some ([], cs)
    else if c = '\\' then
      (escape? names cs).bind fun (text, width) =>
        (body names quote (cs.drop width)).map fun (more, rest) => (text ++ more, rest)
    else if breaksLine c then none
    else (body names quote cs).map fun (more, rest) => (c :: more, rest)
termination_by cs => cs.length
decreasing_by
  · simp only [List.length_drop, List.length_cons]
    omega
  · exact Nat.lt_succ_self _

/-- The text of the literal at the start, and what comes after it. A quote that is written three
times begins a literal of another kind, which may go on over lines; it is not read here. -/
def read? (names : String → Option Char) : List Char → Option (String × List Char)
  | [] => none
  | quote :: cs =>
    if (quote = '\'' ∨ quote = '"') ∧ ¬ [quote, quote] <+: cs then
      (body names quote cs).map fun (text, rest) => (String.ofList text, rest)
    else none

/-- The text of a literal with nothing after it. -/
def text? (names : String → Option Char) (literal : String) : Option String :=
  match read? names literal.toList with
  | some (text, []) => some text
  | _ => none

/-- Escapes of every kind, an escape that means nothing and a quote of the other kind. -/
example : text? (fun name => if name = "BULLET" then some '•' else none)
    "'\\x41\\u00e9\\U0001F600\\101\\12\\t\\N\x7bBULLET\x7d\\d\"'" = some "Aé😀A\n\t•\\d\"" := by
  cbv

end CheckConstraints.Text.Literal
