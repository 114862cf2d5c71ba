import Mathlib.Data.List.TakeWhile
/-!
# Texts cut at tokens

A token is a name between two marks, such as `?name?`.  A text is cut at its tokens from the left:
where a token may begin and does, it is taken whole, and the text goes on behind it.  What stands
between two tokens then holds no place where one more could be taken.

Main results:

- Type `Segments`: the texts between tokens with the names of the tokens; `Segments.fill` writes
  something for each token, and `Segments.ofPieces` collects the pieces of a reader.
- Definition `Segments.Cuts` says that a text is cut at its leftmost tokens.
- Theorems `Segments.Cuts.cons` and `Segments.Cuts.token`: a cut goes on to the left.
- Theorem `Segments.Cuts.unique`: a text is cut in one way only.
-/

namespace SqlRelay

/-- A kind of token: the mark on both sides, and the characters of names. -/
structure TokenKind where
  mark : Char
  inName : Char → Bool
  inName_mark : inName mark = false

namespace TokenKind

variable (k : TokenKind)

/-- A name has a character, and only such as may stand in names. -/
def IsName (name : List Char) : Prop :=
  name ≠ [] ∧ ∀ c ∈ name, k.inName c = true

/-- The text of a token. -/
def text (name : List Char) : List Char :=
  k.mark :: name ++ [k.mark]

/-- A text that begins with a token. -/
def Begins (cs : List Char) : Prop :=
  ∃ name behind, k.IsName name ∧ cs = k.text name ++ behind

variable {k}

/-- A name ends at the next mark. -/
theorem takeWhile_inName {name : List Char} (h : k.IsName name) (behind : List Char) :
    (name ++ k.mark :: behind).takeWhile k.inName = name := by
  rw [List.takeWhile_append_of_pos h.2, List.takeWhile_cons_of_neg (by simp [k.inName_mark]),
    List.append_nil]

/-- A text begins with one token at most. -/
theorem text_append_inj {name name' behind behind' : List Char} (h : k.IsName name)
    (h' : k.IsName name') (heq : k.text name ++ behind = k.text name' ++ behind') :
    name = name' ∧ behind = behind' := by
  have hmarked : name ++ k.mark :: behind = name' ++ k.mark :: behind' := by
    simpa [text] using heq
  have hname : name = name' := by
    rw [← takeWhile_inName h behind, hmarked, takeWhile_inName h' behind']
  subst hname
  exact ⟨rfl, by simpa using hmarked⟩

end TokenKind

/-! ## Segments -/

/-- A text cut at tokens: what stands in front of them, and the name of each token with the text
that stands behind it. -/
structure Segments where
  front : List Char
  rest : List (List Char × List Char)

namespace Segments

/-- The names of the tokens in order. -/
def names (s : Segments) : List (List Char) :=
  s.rest.map (·.1)

/-- Changes the texts between the tokens. -/
def mapTexts (f : List Char → List Char) (s : Segments) : Segments :=
  ⟨f s.front, s.rest.map (fun segment => (segment.1, f segment.2))⟩

/-- The tokens from an index on, each written in its way, with the texts behind them. -/
def fillFrom (write : Nat → List Char → List Char) :
    Nat → List (List Char × List Char) → List Char
  | _, [] => []
  | index, (name, text) :: rest => write index name ++ text ++ fillFrom write (index + 1) rest

/-- The text in which each token is written as its index and its name say. -/
def fill (write : Nat → List Char → List Char) (s : Segments) : List Char :=
  s.front ++ fillFrom write 0 s.rest

variable (k : TokenKind)

/-- The text with its tokens as they stand. -/
def source (s : Segments) : List Char :=
  s.fill (fun _ => k.text)

/-- One of the texts of some segments, with all that stands before it and all that stands
behind. -/
inductive HasText : Segments → List Char → List Char → List Char → Prop where
  | front (text : List Char) (rest : List (List Char × List Char)) :
      HasText ⟨text, rest⟩ [] text (source k ⟨[], rest⟩)
  | later {name next before text behind : List Char} {rest : List (List Char × List Char)}
      (front : List Char) (h : HasText ⟨next, rest⟩ before text behind) :
      HasText ⟨front, (name, next) :: rest⟩ (front ++ k.text name ++ before) text behind

/-- The name of one of the tokens of some segments, with all that stands before the token. -/
inductive HasToken : Segments → List Char → List Char → Prop where
  | first (front name next : List Char) (rest : List (List Char × List Char)) :
      HasToken ⟨front, (name, next) :: rest⟩ front name
  | later {name next before other : List Char} {rest : List (List Char × List Char)}
      (front : List Char) (h : HasToken ⟨next, rest⟩ before other) :
      HasToken ⟨front, (name, next) :: rest⟩ (front ++ k.text name ++ before) other

/-- The segments of a text at its leftmost tokens, where `isOpen` tells from what stands before a
place whether a token may begin there: the tokens begin at open places, and at no open place in a
text between them does one more begin. -/
structure Cuts (isOpen : List Char → Prop) (cs : List Char) (s : Segments) : Prop where
  source_eq : s.source k = cs
  isName : ∀ before name, s.HasToken k before name → k.IsName name
  opens : ∀ before name, s.HasToken k before name → isOpen before
  leftmost : ∀ before text behind, s.HasText k before text behind →
    ∀ left c right, text = left ++ c :: right → isOpen (before ++ left) →
      ¬ k.Begins (c :: right ++ behind)

/-- Where the tokens begin, in the text that goes on with `front` behind `offset` characters. -/
def startsFrom : Nat → List Char → List (List Char × List Char) → List Nat
  | _, _, [] => []
  | offset, front, (name, next) :: rest =>
    (offset + front.length) :: startsFrom (offset + front.length + (k.text name).length) next rest

/-- Where the tokens begin, counted in characters. -/
def starts (s : Segments) : List Nat :=
  startsFrom k 0 s.front s.rest

section Pieces

variable {α : Type} (view : α → Char ⊕ List Char)

/-- The segments of pieces, each of which is seen as a character or as the name of a token. -/
def ofPieces : List α → Segments
  | [] => ⟨[], []⟩
  | piece :: pieces =>
    match view piece with
    | .inl c => ⟨c :: (ofPieces pieces).front, (ofPieces pieces).rest⟩
    | .inr name => ⟨[], (name, (ofPieces pieces).front) :: (ofPieces pieces).rest⟩

end Pieces

/-! ## Cutting from right to left -/

variable {k}

/-- Where the index does not count, the tokens may be counted from any other. -/
theorem fillFrom_const (write : List Char → List Char) (index other : Nat)
    (rest : List (List Char × List Char)) :
    fillFrom (fun _ => write) index rest = fillFrom (fun _ => write) other rest := by
  induction rest generalizing index other with
  | nil => rfl
  | cons segment rest ih => rw [fillFrom, fillFrom, ih (index + 1) (other + 1)]

@[simp]
theorem source_nil (front : List Char) : source k ⟨front, []⟩ = front := by
  simp [source, fill, fillFrom]

@[simp]
theorem source_cons (front name next : List Char) (rest : List (List Char × List Char)) :
    source k ⟨front, (name, next) :: rest⟩ = front ++ k.text name ++ source k ⟨next, rest⟩ := by
  simp [source, fill, fillFrom, fillFrom_const k.text 1 0]

/-- The text in front of all tokens can be taken off. -/
theorem source_front (front : List Char) (rest : List (List Char × List Char)) :
    source k ⟨front, rest⟩ = front ++ source k ⟨[], rest⟩ := by
  simp [source, fill]

variable {isOpen : List Char → Prop}

/-- The empty text is one text without tokens. -/
theorem Cuts.nil : Cuts k isOpen [] ⟨[], []⟩ where
  source_eq := rfl
  isName := by rintro _ _ ⟨⟩
  opens := by rintro _ _ ⟨⟩
  leftmost := by
    rintro _ _ _ ⟨⟩ left c right htext
    simp at htext

/-- A character in front, where no token is taken, goes to the first text. -/
theorem Cuts.cons {cs front : List Char} {rest : List (List Char × List Char)} {c : Char}
    (cuts : Cuts k (fun before => isOpen (c :: before)) cs ⟨front, rest⟩)
    (h : isOpen [] → ¬ k.Begins (c :: cs)) : Cuts k isOpen (c :: cs) ⟨c :: front, rest⟩ where
  source_eq := by
    rw [source_front, List.cons_append, ← source_front, cuts.source_eq]
  isName := by
    rintro before name ⟨⟩
    · exact cuts.isName _ _ (.first ..)
    · exact cuts.isName _ _ (.later front ‹_›)
  opens := by
    rintro before name ⟨⟩
    · exact cuts.opens _ _ (.first ..)
    · exact cuts.opens _ _ (.later front ‹_›)
  leftmost := by
    rintro before text behind ⟨⟩ left d right htext hopen
    · cases left with
      | nil =>
        obtain ⟨rfl, rfl⟩ := List.cons.inj htext
        have hcs : front ++ source k ⟨[], rest⟩ = cs := by
          rw [← source_front]
          exact cuts.source_eq
        rw [List.cons_append, hcs]
        exact h hopen
      | cons e left =>
        obtain ⟨rfl, hfront⟩ := List.cons.inj htext
        exact cuts.leftmost _ _ _ (.front ..) left d right hfront hopen
    · exact cuts.leftmost _ _ _ (.later front ‹_›) left d right htext hopen

/-- A token in front is taken where one may begin. -/
theorem Cuts.token {cs : List Char} {s : Segments} {name : List Char}
    (cuts : Cuts k (fun before => isOpen (k.text name ++ before)) cs s) (hname : k.IsName name)
    (h : isOpen []) : Cuts k isOpen (k.text name ++ cs) ⟨[], (name, s.front) :: s.rest⟩ where
  source_eq := by
    rw [source_cons, cuts.source_eq]
    rfl
  isName := by
    rintro before other ⟨⟩
    · exact hname
    · exact cuts.isName _ _ ‹_›
  opens := by
    rintro before other ⟨⟩
    · exact h
    · exact cuts.opens _ _ ‹_›
  leftmost := by
    rintro before text behind ⟨⟩ left d right htext hopen
    · simp at htext
    · exact cuts.leftmost _ _ _ ‹_› left d right htext (by simpa using hopen)

/-- Behind a token the text is cut on its own. -/
theorem Cuts.behind {cs front name next : List Char} {rest : List (List Char × List Char)}
    (cuts : Cuts k isOpen cs ⟨front, (name, next) :: rest⟩) :
    Cuts k (fun before => isOpen (front ++ k.text name ++ before)) (source k ⟨next, rest⟩)
      ⟨next, rest⟩ where
  source_eq := rfl
  isName := fun _ _ h => cuts.isName _ _ (.later front h)
  opens := fun _ _ h => cuts.opens _ _ (.later front h)
  leftmost := by
    intro before text behind h left c right htext hopen
    exact cuts.leftmost _ _ _ (.later front h) left c right htext (by simpa using hopen)

/-- The first text of a cut reaches as far as that of any other: where it ended earlier, a token
would begin at an open place of the other one. -/
theorem Cuts.front_prefix {cs : List Char} {s s' : Segments} (cuts : Cuts k isOpen cs s)
    (cuts' : Cuts k isOpen cs s') : s'.front <+: s.front := by
  obtain ⟨front, rest⟩ := s
  obtain ⟨front', rest'⟩ := s'
  have hsame : front ++ source k ⟨[], rest⟩ = front' ++ source k ⟨[], rest'⟩ := by
    rw [← source_front, ← source_front, cuts.source_eq, cuts'.source_eq]
  rcases List.append_eq_append_iff.1 hsame with ⟨more, rfl, hrest⟩ | ⟨more, rfl, -⟩
  · cases more with
    | nil => simp
    | cons c right =>
      cases rest with
      | nil => simp at hrest
      | cons segment rest =>
        obtain ⟨name, next⟩ := segment
        have hopen := cuts.opens _ _ (.first ..)
        have hbegins : k.Begins (c :: right ++ source k ⟨[], rest'⟩) :=
          ⟨name, source k ⟨next, rest⟩, cuts.isName _ _ (.first ..), by simpa using hrest.symm⟩
        exact absurd hbegins (cuts'.leftmost _ _ _ (.front ..) front c right rfl hopen)
  · exact List.prefix_append _ _

/-- A text is cut in one way only. -/
theorem Cuts.unique {cs : List Char} {s s' : Segments} (cuts : Cuts k isOpen cs s)
    (cuts' : Cuts k isOpen cs s') : s = s' := by
  obtain ⟨front, rest⟩ := s
  obtain ⟨front', rest'⟩ := s'
  have hfront : front' = front :=
    (cuts.front_prefix cuts').eq_of_length_le (cuts'.front_prefix cuts).length_le
  subst hfront
  induction rest generalizing cs front' rest' isOpen with
  | nil =>
    cases rest' with
    | nil => rfl
    | cons segment rest' =>
      obtain ⟨name, next⟩ := segment
      have hsame := cuts.source_eq.trans cuts'.source_eq.symm
      simp [TokenKind.text] at hsame
  | cons segment rest ih =>
    obtain ⟨name, next⟩ := segment
    cases rest' with
    | nil =>
      have hsame := cuts.source_eq.trans cuts'.source_eq.symm
      simp [TokenKind.text] at hsame
    | cons segment' rest' =>
      obtain ⟨name', next'⟩ := segment'
      have hsame : k.text name ++ source k ⟨next, rest⟩ =
          k.text name' ++ source k ⟨next', rest'⟩ := by
        simpa using cuts.source_eq.trans cuts'.source_eq.symm
      obtain ⟨rfl, hbehind⟩ := TokenKind.text_append_inj (cuts.isName _ _ (.first ..))
        (cuts'.isName _ _ (.first ..)) hsame
      have cutsBehind := cuts.behind
      have cutsBehind' := cuts'.behind
      rw [hbehind] at cutsBehind
      have hnext : next' = next :=
        (cutsBehind.front_prefix cutsBehind').eq_of_length_le
          (cutsBehind'.front_prefix cutsBehind).length_le
      subst hnext
      obtain ⟨-, rfl⟩ := mk.inj (ih _ _ cutsBehind' cutsBehind)
      rfl

end Segments
end SqlRelay
