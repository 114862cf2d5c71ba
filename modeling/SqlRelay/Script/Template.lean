import SqlRelay.Sql.Dialect
import SqlRelay.Sql.Region
/-!
# Statement templates

The body of a statement is a run of characters with slots `?name?` between them.  A slot starts
outside quoted text, its name has a character, and no question mark, line feed or quote stands in
it.  Rendering a template writes the placeholders of a dialect into the slots.

Main results:

- Definition `Template.ofBody` reads a body; `Template.render` writes SQL text.
- Theorem `source_ofBody`: writing the slots back restores the body.
-/

namespace SqlRelay

/-- A character of a body, or a slot with its name. -/
inductive Piece where
  | char (c : Char)
  | slot (name : List Char)
  deriving DecidableEq, Repr

/-- A body as its pieces. -/
abbrev Template := List Piece

/-- The characters that end the search for the end of a slot. -/
def endsSlotName (c : Char) : Bool :=
  c == '?' || c == '\n' || isQuote c

/-- The name of the slot whose opening question mark stands right before a text. -/
def slotName? (cs : List Char) : Option (List Char) :=
  let name := cs.takeWhile (fun c => !endsSlotName c)
  match cs.drop name.length with
  | '?' :: _ => if name.isEmpty then none else some name
  | _ => none

namespace Template

/-- The pieces of a text that follows `skip` characters of a slot already read.  The quote of the
literal that the text starts in is `quote`. -/
def readFrom : Option Char → Nat → List Char → Template
  | _, _, [] => []
  | quote, skip + 1, _ :: cs => readFrom quote skip cs
  | some opened, 0, c :: cs => .char c :: readFrom (if c = opened then none else some opened) 0 cs
  | none, 0, c :: cs =>
    if isQuote c then .char c :: readFrom (some c) 0 cs
    else if c = '?' then
      match slotName? cs with
      | some name => .slot name :: readFrom none (name.length + 1) cs
      | none => .char c :: readFrom none 0 cs
    else .char c :: readFrom none 0 cs

/-- The pieces of a body. -/
def ofBody (cs : List Char) : Template :=
  readFrom none 0 cs

/-! ## Writing and reading back -/

/-- The text of a piece as it stands in a body. -/
def pieceSource : Piece → List Char
  | .char c => [c]
  | .slot name => '?' :: name ++ ['?']

/-- The body of a template. -/
def source (t : Template) : List Char :=
  t.flatMap pieceSource

/-- The SQL text of a template whose first slot has the given index. -/
def renderFrom (d : Dialect) : Nat → Template → List Char
  | _, [] => []
  | index, .char c :: rest => c :: renderFrom d index rest
  | index, .slot _ :: rest => d.placeholder index ++ renderFrom d (index + 1) rest

/-- The SQL text of a template. -/
def render (d : Dialect) (t : Template) : List Char :=
  renderFrom d 0 t

/-- The name of a slot. -/
def pieceName? : Piece → Option (List Char)
  | .slot name => some name
  | .char _ => none

/-- The names of the slots in order. -/
def names (t : Template) : List (List Char) :=
  t.filterMap pieceName?

@[simp]
theorem source_nil : source [] = [] := rfl

@[simp]
theorem source_cons (p : Piece) (t : Template) : source (p :: t) = pieceSource p ++ source t := by
  simp [source]

/-- The name of a slot is what stands before the closing mark. -/
theorem slotName?_eq_some {cs name : List Char} (h : slotName? cs = some name) :
    ∃ rest, cs = name ++ '?' :: rest ∧ name ≠ [] ∧ ∀ c ∈ name, endsSlotName c = false := by
  unfold slotName? at h
  simp only at h
  split at h
  · rename_i rest hrest
    split at h
    · simp at h
    · rename_i hne
      injection h with h
      refine ⟨rest, ?_, ?_, ?_⟩
      · subst h
        have := List.take_append_drop (cs.takeWhile fun c => !endsSlotName c).length cs
        rw [hrest] at this
        have ht : cs.take (cs.takeWhile fun c => !endsSlotName c).length =
            cs.takeWhile fun c => !endsSlotName c :=
          (List.prefix_iff_eq_take.1 (List.takeWhile_prefix _)).symm
        rw [ht] at this
        exact this.symm
      · subst h
        simpa using hne
      · subst h
        intro c hc
        have hall := List.all_takeWhile (l := cs) (p := fun c => !endsSlotName c)
        have := List.all_eq_true.1 hall c hc
        simpa using this
  · simp at h

/-- Reading loses nothing of a text but what is skipped. -/
theorem source_readFrom (quote : Option Char) (skip : Nat) (cs : List Char) :
    source (readFrom quote skip cs) = cs.drop skip := by
  fun_induction readFrom quote skip cs with
  | case1 => simp
  | case2 quote skip c cs ih => simpa using ih
  | case3 opened c cs ih => simpa [pieceSource] using ih
  | case4 c cs _ ih => simpa [pieceSource] using ih
  | case5 cs name found _ ih =>
    obtain ⟨rest, rfl, _⟩ := slotName?_eq_some found
    have : List.drop (name.length + 1) (name ++ '?' :: rest) = rest := by
      simp [List.drop_append]
    rw [this] at ih
    simp [pieceSource, ih]
  | case6 cs _ _ ih => simpa [pieceSource] using ih
  | case7 c cs _ _ ih => simpa [pieceSource] using ih

/-- Writing the slots back restores the body. -/
theorem source_ofBody (cs : List Char) : (ofBody cs).source = cs := by
  simpa [ofBody] using source_readFrom none 0 cs

end Template
end SqlRelay
