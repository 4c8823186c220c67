import CheckConstraints.Descriptor.Predicate

/-!
A reader of predicates. It goes through a text once, from left to right, and keeps a stack of the
conjunctions that are open. Whether a part is a raw text, a set or a conjunction shows at its first
parenthesis inside: a conjunction begins with one, a set has an opening one further on, and a raw
text without parentheses of its own comes to its end. The values of a set are told apart by their
first character; only a text begins with a quote.
-/

namespace CheckConstraints.PredicateReader

/-- The text of a literal whose opening quote is read, and what comes after its closing quote. A
quote that is written twice is one of the text. -/
def readQuoted : List Char → Option (List Char × List Char)
  | '\'' :: '\'' :: cs => (readQuoted cs).map fun (text, rest) => ('\'' :: text, rest)
  | '\'' :: cs => some ([], cs)
  | c :: cs => (readQuoted cs).map fun (text, rest) => (c :: text, rest)
  | [] => none

/-- The characters that may follow a value in a set. -/
def endsWord (c : Char) : Bool := c == ',' || c == ']'

def integer? (word : List Char) : Option Int :=
  let (negative, digits) := Number.takeSign word
  (Number.digits? digits).map fun (n : Nat) => if negative then -(n : Int) else n

def ofWord? (word : List Char) : Option Scalar :=
  if word = "true".toList then some (.bool true)
  else if word = "false".toList then some (.bool false)
  else (integer? word).map .int

def readScalar : List Char → Option (Scalar × List Char)
  | '\'' :: cs => (readQuoted cs).map fun (text, rest) => (.text (String.ofList text), rest)
  | cs => (ofWord? (cs.takeWhile (!endsWord ·))).map fun v => (v, cs.dropWhile (!endsWord ·))

theorem readScalar_of_word {cs : List Char} (unquoted : ∀ tail, cs ≠ '\'' :: tail) :
    readScalar cs = (ofWord? (cs.takeWhile (!endsWord ·))).map fun v =>
      (v, cs.dropWhile (!endsWord ·)) := by
  rw [readScalar]
  exact unquoted

theorem length_readQuoted {cs text rest : List Char} (h : readQuoted cs = some (text, rest)) :
    rest.length < cs.length := by
  fun_induction readQuoted cs generalizing text with
  | case1 cs ih | case3 c cs _ _ ih =>
      obtain ⟨⟨text', rest'⟩, read, same⟩ := Option.map_eq_some_iff.mp h
      obtain ⟨_, rfl⟩ := Prod.mk.inj same
      have := ih read
      simp only [List.length_cons]
      omega
  | case2 cs _ =>
      obtain ⟨_, rfl⟩ := Prod.mk.inj (Option.some.inj h)
      simp
  | case4 => simp at h

theorem length_readScalar {cs rest : List Char} {v : Scalar}
    (h : readScalar cs = some (v, rest)) : rest.length ≤ cs.length := by
  fun_cases readScalar cs with
  | case1 cs =>
      obtain ⟨⟨text, rest'⟩, read, same⟩ := Option.map_eq_some_iff.mp h
      obtain ⟨_, rfl⟩ := Prod.mk.inj same
      have := length_readQuoted read
      simp only [List.length_cons]
      omega
  | case2 cs unquoted =>
      rw [readScalar_of_word unquoted] at h
      obtain ⟨v', _, same⟩ := Option.map_eq_some_iff.mp h
      obtain ⟨_, rfl⟩ := Prod.mk.inj same
      exact (List.dropWhile_suffix _).length_le

/-- The values of a set up to its closing bracket, at least one. -/
def readScalars (cs : List Char) : Option (List Scalar × List Char) :=
  match _ : readScalar cs with
  | some (v, ',' :: ' ' :: rest) => (readScalars rest).map fun (vs, rest) => (v :: vs, rest)
  | some (v, ']' :: rest) => some ([v], rest)
  | _ => none
termination_by cs.length
decreasing_by
  have := length_readScalar ‹readScalar cs = _›
  simp only [List.length_cons] at this
  omega

theorem readScalars_next {cs rest : List Char} {v : Scalar}
    (h : readScalar cs = some (v, ',' :: ' ' :: rest)) :
    readScalars cs = (readScalars rest).map fun (vs, rest) => (v :: vs, rest) := by
  rw [readScalars]
  split <;> simp_all

theorem readScalars_last {cs rest : List Char} {v : Scalar}
    (h : readScalar cs = some (v, ']' :: rest)) : readScalars cs = some ([v], rest) := by
  rw [readScalars]
  split <;> simp_all

def isParen (c : Char) : Bool := c == '(' || c == ')'

/-- Whether a text is free of parentheses. -/
def isFlat (text : List Char) : Bool := text.all (!isParen ·)

/-- The column in front of the set that it is compared with. -/
def column? (head : List Char) : Option String :=
  if head.drop (head.length - 7) = " = ANY ".toList then
    some (String.ofList (head.take (head.length - 7)))
  else none

/-- A raw text or a set, after its opening parenthesis. -/
def readAtom (cs : List Char) : Option (Descriptor × List Char) :=
  match cs.dropWhile (!isParen ·) with
  | ')' :: rest => some (.raw (String.ofList (cs.takeWhile (!isParen ·))), rest)
  | '(' :: 'A' :: 'R' :: 'R' :: 'A' :: 'Y' :: '[' :: rest =>
    match column? (cs.takeWhile (!isParen ·)), readScalars rest with
    | some column, some (values, ')' :: ')' :: rest) => some (.inSet column values, rest)
    | _, _ => none
  | _ => none

theorem length_readScalars {cs rest : List Char} {vs : List Scalar}
    (h : readScalars cs = some (vs, rest)) : rest.length < cs.length := by
  fun_induction readScalars cs generalizing vs with
  | case1 cs v after read ih =>
      obtain ⟨⟨vs', rest'⟩, later, same⟩ := Option.map_eq_some_iff.mp h
      obtain ⟨_, rfl⟩ := Prod.mk.inj same
      have := ih later
      have := length_readScalar read
      simp only [List.length_cons] at this
      omega
  | case2 cs v after read =>
      obtain ⟨_, rfl⟩ := Prod.mk.inj (Option.some.inj h)
      have := length_readScalar read
      simp only [List.length_cons] at this
      omega
  | case3 => simp at h

theorem length_readAtom {cs rest : List Char} {d : Descriptor}
    (h : readAtom cs = some (d, rest)) : rest.length < cs.length := by
  have suffix := (List.dropWhile_suffix (l := cs) (!isParen ·)).length_le
  simp only [readAtom] at h
  split at h
  · rename_i after found
    obtain ⟨_, rfl⟩ := Prod.mk.inj (Option.some.inj h)
    rw [found, List.length_cons] at suffix
    omega
  · rename_i after found
    split at h
    · rename_i column values after' _ read
      obtain ⟨_, rfl⟩ := Prod.mk.inj (Option.some.inj h)
      have := length_readScalars read
      rw [found] at suffix
      simp only [List.length_cons] at suffix this
      omega
    · simp at h
  · simp at h

mutual

/-- Reads a descriptor and goes on with the conjunctions on the stack, innermost first, each with
its parts so far, newest first. -/
def readFrom (stack : List (List Descriptor)) (cs : List Char) :
    Option (Descriptor × List Char) :=
  match cs with
  | '(' :: '(' :: cs => readFrom ([] :: stack) ('(' :: cs)
  | '(' :: cs =>
    match _ : readAtom cs with
    | some (d, rest) => resume stack d rest
    | none => none
  | _ => none
termination_by cs.length
decreasing_by
  · simp
  · have := length_readAtom ‹readAtom cs = _›
    simp only [List.length_cons]
    omega

/-- Goes on after a descriptor: another part of the innermost conjunction, or its end. -/
def resume (stack : List (List Descriptor)) (d : Descriptor) (rest : List Char) :
    Option (Descriptor × List Char) :=
  match stack, rest with
  | [], rest => some (d, rest)
  | parts :: stack, ' ' :: 'A' :: 'N' :: 'D' :: ' ' :: rest => readFrom ((d :: parts) :: stack) rest
  | parts :: stack, ')' :: rest => resume stack (.all (d :: parts).reverse) rest
  | _ :: _, _ => none
termination_by rest.length
decreasing_by all_goals simp; try omega

end

theorem readFrom_conjunction (stack : List (List Descriptor)) (cs : List Char) :
    readFrom stack ('(' :: '(' :: cs) = readFrom ([] :: stack) ('(' :: cs) := by
  rw [readFrom]

theorem readFrom_atom {stack : List (List Descriptor)} {cs rest : List Char} {d : Descriptor}
    (closed : ∀ tail, cs ≠ '(' :: tail) (h : readAtom cs = some (d, rest)) :
    readFrom stack ('(' :: cs) = resume stack d rest := by
  rw [readFrom]
  · split <;> simp_all
  · exact closed

theorem resume_part (parts : List Descriptor) (stack : List (List Descriptor)) (d : Descriptor)
    (rest : List Char) :
    resume (parts :: stack) d (" AND ".toList ++ rest) = readFrom ((d :: parts) :: stack) rest := by
  simp [resume]

theorem resume_end (parts : List Descriptor) (stack : List (List Descriptor)) (d : Descriptor)
    (rest : List Char) :
    resume (parts :: stack) d (')' :: rest) =
      resume stack (.all (d :: parts).reverse) rest := by
  rw [resume]

/-- The descriptor of a predicate. -/
def read (predicate : String) : Option Descriptor :=
  match readFrom [] predicate.toList with
  | some (d, []) => some d
  | _ => none

end CheckConstraints.PredicateReader
