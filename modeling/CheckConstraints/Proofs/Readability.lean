import CheckConstraints.Proofs.LiteralReading

/-!
Predicates are uniquely readable: the reader gives back the descriptor of every predicate, as long as
raw texts and columns are without parentheses and sets hold truth values, integers and texts. The
texts in sets may hold anything. A predicate is read under an arbitrary stack of open conjunctions
and in front of an arbitrary remaining text, which carries the induction over the descriptor.
-/

namespace CheckConstraints

namespace Descriptor

/-- A descriptor without parentheses in its raw texts and columns, and with plain values. -/
inductive Plain : Descriptor → Prop where
  | raw {text : String} (flat : PredicateReader.isFlat text.toList = true) : Plain (.raw text)
  | inSet {column : String} {values : List Scalar}
      (flat : PredicateReader.isFlat column.toList = true) (plain : ∀ v ∈ values, v.Plain) :
      Plain (.inSet column values)
  | all {parts : List Descriptor} (plain : ∀ p ∈ parts, Plain p) : Plain (.all parts)

mutual

def decPlain : (d : Descriptor) → Decidable d.Plain
  | .raw text =>
    decidable_of_iff (PredicateReader.isFlat text.toList = true) ⟨.raw, fun | .raw flat => flat⟩
  | .inSet column values =>
    decidable_of_iff (PredicateReader.isFlat column.toList = true ∧ ∀ v ∈ values, v.Plain)
      ⟨fun h => .inSet h.1 h.2, fun | .inSet flat plain => ⟨flat, plain⟩⟩
  | .all parts =>
    match decPlainParts parts with
    | isTrue plain => isTrue (.all plain)
    | isFalse h => isFalse fun | .all plain => h plain

def decPlainParts : (ps : List Descriptor) → Decidable (∀ p ∈ ps, p.Plain)
  | [] => isTrue (by simp)
  | p :: ps =>
    match decPlain p, decPlainParts ps with
    | isTrue first, isTrue later => isTrue (List.forall_mem_cons.mpr ⟨first, later⟩)
    | isFalse h, _ => isFalse fun plain => h (plain p List.mem_cons_self)
    | _, isFalse h => isFalse fun plain => h (List.forall_mem_cons.mp plain).2

end

instance : DecidablePred Plain := decPlain

end Descriptor

namespace PredicateReader

open Descriptor

theorem flat_column {column : String} (flat : isFlat column.toList = true) :
    isFlat (column.toList ++ " = ANY ".toList) = true := by
  have operator : isFlat " = ANY ".toList = true := rfl
  rw [isFlat, List.all_append, ← isFlat, ← isFlat, flat, operator]
  rfl

theorem column?_append (column : String) :
    column? (column.toList ++ " = ANY ".toList) = some column := by
  have seven : " = ANY ".toList.length = 7 := by decide
  have front : (column.toList ++ " = ANY ".toList).length - 7 = column.toList.length := by
    rw [List.length_append, seven]
    omega
  rw [column?, front, List.drop_left, List.take_left, if_pos rfl, String.ofList_toList]

/-- Up to its first parenthesis a text is read as it is. -/
theorem split_at_paren {head : List Char} {c : Char} (flat : isFlat head = true)
    (paren : isParen c = true) (rest : List Char) :
    (head ++ c :: rest).takeWhile (!isParen ·) = head ∧
      (head ++ c :: rest).dropWhile (!isParen ·) = c :: rest := by
  have inside : ∀ c ∈ head, (!isParen c) = true := List.all_eq_true.mp flat
  have stops : ∀ d ∈ (c :: rest).head?, (!isParen d) = false := by simp [paren]
  exact ⟨Text.takeWhile_run inside stops, Text.dropWhile_run inside stops⟩

/-- A flat text does not begin with the parenthesis that opens a conjunction. -/
theorem ne_paren_cons {text tail : List Char} (flat : isFlat text = true) (filled : text ≠ []) :
    ∀ rest, text ++ tail ≠ '(' :: rest := by
  intro rest same
  cases text with
  | nil => exact filled rfl
  | cons c cs =>
      obtain ⟨rfl, _⟩ := List.cons.inj same
      simp [isFlat, isParen] at flat

theorem readAtom_raw {text : String} (flat : isFlat text.toList = true) (rest : List Char) :
    readAtom (text.toList ++ ')' :: rest) = some (.raw text, rest) := by
  obtain ⟨before, after⟩ := split_at_paren flat (c := ')') rfl rest
  simp [readAtom, before, after]

theorem readAtom_inSet {column : String} {v : Scalar} {vs : List Scalar} {l : String}
    {ls : List String} (flat : isFlat column.toList = true)
    (plain : ∀ v' ∈ v :: vs, v'.Plain) (first : v.literal = .ok l)
    (later : literals vs = .ok ls) (rest : List Char) :
    readAtom (column.toList ++ " = ANY ".toList ++ "(ARRAY[".toList ++
        ((", ".intercalate (l :: ls)).toList ++ ']' :: ')' :: ')' :: rest)) =
      some (.inSet column (v :: vs), rest) := by
  have values := readScalars_literals plain first later (')' :: ')' :: rest)
  obtain ⟨before, after⟩ := split_at_paren (flat_column flat) (c := '(') rfl
    ('A' :: 'R' :: 'R' :: 'A' :: 'Y' :: '[' ::
      ((", ".intercalate (l :: ls)).toList ++ ']' :: ')' :: ')' :: rest))
  rw [List.append_assoc]
  simp only [readAtom]
  rw [show "(ARRAY[".toList = ['(', 'A', 'R', 'R', 'A', 'Y', '['] from rfl]
  simp only [List.cons_append, List.nil_append, before, after, column?_append, values]

theorem readFrom_raw {text : String} (flat : isFlat text.toList = true)
    (filled : Text.allBlank text = false) (stack : List (List Descriptor)) (rest : List Char) :
    readFrom stack ((rawPredicate text).toList ++ rest) = resume stack (.raw text) rest := by
  have shape : (rawPredicate text).toList ++ rest = '(' :: (text.toList ++ ')' :: rest) := by
    simp [rawPredicate]
  have chars : text.toList ≠ [] := by
    intro empty
    simp [Text.allBlank, empty] at filled
  rw [shape]
  exact readFrom_atom (ne_paren_cons flat chars) (readAtom_raw flat rest)

theorem readFrom_inSet {column : String} {v : Scalar} {vs : List Scalar} {l : String}
    {ls : List String} (flat : isFlat column.toList = true)
    (plain : ∀ v' ∈ v :: vs, v'.Plain) (first : v.literal = .ok l)
    (later : literals vs = .ok ls) (stack : List (List Descriptor)) (rest : List Char) :
    readFrom stack ((memberPredicate column (l :: ls)).toList ++ rest) =
      resume stack (.inSet column (v :: vs)) rest := by
  have shape : (memberPredicate column (l :: ls)).toList ++ rest =
      '(' :: (column.toList ++ " = ANY ".toList ++ "(ARRAY[".toList ++
        ((", ".intercalate (l :: ls)).toList ++ ']' :: ')' :: ')' :: rest)) := by
    simp [memberPredicate]
  rw [shape]
  refine readFrom_atom ?_ (readAtom_inSet flat plain first later rest)
  rw [List.append_assoc _ "(ARRAY[".toList]
  exact ne_paren_cons (flat_column flat) (by simp)

/-- The parts of a conjunction are read one after the other, whatever was read of it before. -/
theorem readFrom_parts {ps : List Descriptor} {qs : List String} {p : Descriptor} {q : String}
    (reads : ∀ p' ∈ p :: ps, ∀ q' stack rest, p'.compile = .ok q' →
      readFrom stack (q'.toList ++ rest) = resume stack p' rest)
    (first : p.compile = .ok q) (later : compileParts ps = .ok qs) (done : List Descriptor)
    (stack : List (List Descriptor)) (rest : List Char) :
    readFrom (done :: stack) ((" AND ".intercalate (q :: qs)).toList ++ ')' :: rest) =
      resume stack (.all (done.reverse ++ p :: ps)) rest := by
  have head := reads p List.mem_cons_self
  induction ps generalizing p q qs done with
  | nil =>
      obtain rfl : [] = qs := by simpa [compileParts] using later
      rw [String.intercalate_singleton, head q _ _ first, resume_end, List.reverse_cons]
  | cons second ps ih =>
      obtain ⟨q', qs', rfl, first', later'⟩ := compileParts_cons_ok.mp later
      have tail := fun p' member => reads p' (List.mem_cons_of_mem _ member)
      have others := ih tail first' later' (p :: done) (tail second List.mem_cons_self)
      have split : (" AND ".intercalate (q :: q' :: qs')).toList ++ ')' :: rest =
          q.toList ++ (" AND ".toList ++
            ((" AND ".intercalate (q' :: qs')).toList ++ ')' :: rest)) := by
        simp [String.intercalate_cons_cons]
      rw [split, head q _ _ first, resume_part, others, List.reverse_cons, List.append_assoc]
      rfl

theorem readFrom_compile {d : Descriptor} {predicate : String} (plain : d.Plain)
    (compiled : d.compile = .ok predicate) (stack : List (List Descriptor)) (rest : List Char) :
    readFrom stack (predicate.toList ++ rest) = resume stack d rest := by
  induction plain generalizing predicate stack rest with
  | raw flat =>
      obtain ⟨text, same, filled, rfl⟩ | ⟨_, _, _, _, _, same, _⟩ | ⟨_, _, _, _, same, _⟩ :=
        compile_ok_cases compiled <;> cases same
      exact readFrom_raw flat filled stack rest
  | inSet flat plain =>
      obtain ⟨_, same, _⟩ | ⟨_, _, _, l, ls, same, first, later, rfl⟩ | ⟨_, _, _, _, same, _⟩ :=
        compile_ok_cases compiled <;> cases same
      exact readFrom_inSet flat plain first later stack rest
  | all plain ih =>
      obtain ⟨_, same, _⟩ | ⟨_, _, _, _, _, same, _⟩ | ⟨p, ps, q, qs, same, first, later, rfl⟩ :=
        compile_ok_cases compiled <;> cases same
      have reads : ∀ p' ∈ p :: ps, ∀ q' stack rest, p'.compile = .ok q' →
          readFrom stack (q'.toList ++ rest) = resume stack p' rest :=
        fun p' member q' stack rest compiled' => ih p' member compiled' stack rest
      have parts := readFrom_parts reads first later [] stack rest
      -- the text of the first part tells the conjunction from a raw text and from a set
      obtain ⟨tail, opens⟩ : ∃ tail, (" AND ".intercalate (q :: qs)).toList = '(' :: tail := by
        obtain ⟨tail, starts⟩ := compile_starts first
        cases qs <;> simp [String.intercalate_cons_cons, starts]
      have shape : (conjoin (q :: qs)).toList ++ rest =
          '(' :: ((" AND ".intercalate (q :: qs)).toList ++ ')' :: rest) := by
        simp [conjoin]
      rw [shape, opens, List.cons_append, readFrom_conjunction, ← List.cons_append, ← opens, parts]
      rfl

theorem read_of_compile {d : Descriptor} {predicate : String} (plain : d.Plain)
    (compiled : d.compile = .ok predicate) : read predicate = some d := by
  have whole := readFrom_compile plain compiled [] []
  rw [List.append_nil] at whole
  simp [read, whole, resume]

end PredicateReader

/-- The same value, with another text where it is one. -/
def Scalar.mapText (f : String → String) : Scalar → Scalar
  | .text s => .text (f s)
  | v => v

namespace Descriptor

mutual

/-- The same descriptor with other texts in its sets. -/
def mapTexts (f : String → String) : Descriptor → Descriptor
  | .raw text => .raw text
  | .inSet column values => .inSet column (values.map (Scalar.mapText f))
  | .all parts => .all (mapTextsParts f parts)

def mapTextsParts (f : String → String) : List Descriptor → List Descriptor
  | [] => []
  | p :: ps => mapTexts f p :: mapTextsParts f ps

end

theorem mem_mapTextsParts {f : String → String} {ps : List Descriptor} {d : Descriptor} :
    d ∈ mapTextsParts f ps ↔ ∃ p ∈ ps, d = p.mapTexts f := by
  induction ps with
  | nil => simp [mapTextsParts]
  | cons p ps ih => simp [mapTextsParts, ih]

theorem Plain.mapTexts {d : Descriptor} (f : String → String) (plain : d.Plain) :
    (d.mapTexts f).Plain := by
  induction plain with
  | raw flat => exact .raw flat
  | inSet flat plain =>
      refine .inSet flat ?_
      intro v member
      obtain ⟨v', member', rfl⟩ := List.mem_map.mp member
      have := plain v' member'
      cases v' <;> exact this
  | all plain ih =>
      refine .all ?_
      intro p member
      obtain ⟨p', member', rfl⟩ := mem_mapTextsParts.mp member
      exact ih p' member'

theorem literals_mapText (f : String → String) {vs : List Scalar} {ls : List String}
    (written : literals vs = .ok ls) :
    ∃ changed, literals (vs.map (Scalar.mapText f)) = .ok changed := by
  induction vs generalizing ls with
  | nil => exact ⟨[], rfl⟩
  | cons v vs ih =>
      obtain ⟨l, ls', rfl, first, later⟩ := literals_cons_ok.mp written
      obtain ⟨changed, others⟩ := ih later
      obtain ⟨l', first'⟩ : ∃ l', (v.mapText f).literal = .ok l' := by
        cases v with
        | text s => exact ⟨_, rfl⟩
        | bool _ | int _ | float _ | decimal _ => exact ⟨l, first⟩
      exact ⟨l' :: changed, literals_cons_ok.mpr ⟨l', changed, rfl, first', others⟩⟩

theorem compileParts_mapTexts (f : String → String) {ps : List Descriptor} {qs : List String}
    (kept : ∀ p ∈ ps, ∀ q, p.compile = .ok q → ∃ changed, (p.mapTexts f).compile = .ok changed)
    (written : compileParts ps = .ok qs) :
    ∃ changed, compileParts (mapTextsParts f ps) = .ok changed := by
  induction ps generalizing qs with
  | nil => exact ⟨[], by simp [mapTextsParts, compileParts]⟩
  | cons p ps ih =>
      obtain ⟨q, qs', rfl, first, later⟩ := compileParts_cons_ok.mp written
      obtain ⟨q', first'⟩ := kept p List.mem_cons_self q first
      obtain ⟨changed, others⟩ :=
        ih (fun p' member => kept p' (List.mem_cons_of_mem _ member)) later
      exact ⟨q' :: changed, compileParts_cons_ok.mpr ⟨q', changed, rfl, first', others⟩⟩

theorem compile_mapTexts (f : String → String) {d : Descriptor} {predicate : String}
    (plain : d.Plain) (compiled : d.compile = .ok predicate) :
    ∃ changed, (d.mapTexts f).compile = .ok changed := by
  induction plain generalizing predicate with
  | raw flat => exact ⟨predicate, by simpa [Descriptor.mapTexts] using compiled⟩
  | @inSet column values flat plain =>
      obtain ⟨_, same, _⟩ | ⟨_, v, vs, l, ls, same, first, later, rfl⟩ | ⟨_, _, _, _, same, _⟩ :=
        compile_ok_cases compiled <;> cases same
      obtain ⟨changed, written⟩ :=
        literals_mapText f (literals_cons_ok.mpr ⟨l, ls, rfl, first, later⟩)
      rw [List.map_cons] at written
      refine ⟨memberPredicate column changed, ?_⟩
      rw [Descriptor.mapTexts, List.map_cons, compile, written]
      rfl
  | all plain ih =>
      obtain ⟨_, same, _⟩ | ⟨_, _, _, _, _, same, _⟩ | ⟨p, ps, q, qs, same, first, later, rfl⟩ :=
        compile_ok_cases compiled <;> cases same
      obtain ⟨changed, written⟩ := compileParts_mapTexts f
        (fun p' member q' compiled' => ih p' member compiled')
        (compileParts_cons_ok.mpr ⟨q, qs, rfl, first, later⟩)
      rw [mapTextsParts] at written
      refine ⟨conjoin changed, ?_⟩
      rw [Descriptor.mapTexts, mapTextsParts, compile, written]
      rfl

open PredicateReader in
/-- A predicate tells its descriptor. The third part puts any texts in the place of those in the
sets: the tree around them stays. By the last part a text is over at its own closing quote. -/
theorem uniquely_readable {d : Descriptor} {predicate : String} (plain : d.Plain)
    (compiled : d.compile = .ok predicate) :
    read predicate = some d ∧
    (∀ e : Descriptor, e.Plain → e.compile = .ok predicate → e = d) ∧
    (∀ f : String → String, ∃ changed, (d.mapTexts f).compile = .ok changed ∧
      read changed = some (d.mapTexts f)) ∧
    (∀ (s : String) (rest : List Char), rest.head? ≠ some '\'' →
      readScalar ((Scalar.textLiteral s).toList ++ rest) = some (.text s, rest)) := by
  have reads := read_of_compile plain compiled
  refine ⟨reads, ?_, ?_, ?_⟩
  · intro e other compiled'
    have reads' := read_of_compile other compiled'
    rw [reads] at reads'
    exact (Option.some.inj reads').symm
  · intro f
    obtain ⟨changed, compiled'⟩ := compile_mapTexts f plain compiled
    exact ⟨changed, compiled', read_of_compile (plain.mapTexts f) compiled'⟩
  · intro s rest after
    exact readScalar_textLiteral s after

/-- The texts of the set pretend to end it, to be a second value and to go on with a conjunction. -/
theorem uniquely_readable_despite_delimiters :
    let d : Descriptor := .all [.raw "a > 1", .all [.inSet "c" [.text "x']))", .text "', 'y",
      .text " AND (true", .text "true", .bool true, .int (-30)]], .raw "it's b"]
    let predicate := "((a > 1) AND ((c = ANY (ARRAY['x'']))', ''', ''y', ' AND (true', 'true', " ++
      "true, -30]))) AND (it's b))"
    PredicateReader.read predicate = some d := by
  intro d predicate
  have compiled : d.compile = .ok predicate := by rfl
  have plain : d.Plain := by decide
  exact (uniquely_readable plain compiled).1

end Descriptor

end CheckConstraints
