import SqlRelay.Proofs.Script.Dialects
import SqlRelay.Proofs.Script.Rewriting
import SqlRelay.Script.Run
/-!
# Request values around placeholders

Request values are put into SQL text when its slots are placeholders already.  A placeholder begins
with a character that no token of request metadata can hold, and holds no mark of such a token; so
each text between two placeholders is read on its own.

Main results:

- Theorem `MetadataPiece.readFrom_cuts`: the tokens of a text are its leftmost ones, wherever they
  stand.
- Theorem `MetadataPiece.readFrom_append`: before a character that no token can hold, a text is
  read on its own.
- Theorem `Metadata.spliceChars_fill`: the texts between placeholders are substituted one by one.
- Theorem `Metadata.splice_render`: so are those between the placeholders of every statement.
-/

namespace SqlRelay

/-- Tokens of request metadata stand between exclamation marks. -/
def metadataKind : TokenKind where
  mark := '!'
  inName := isKeyChar
  inName_mark := by decide

/-- A token begins where a key and its closing mark follow. -/
theorem tokenKey?_eq_some_iff (cs key : List Char) :
    tokenKey? cs = some key ↔ metadataKind.IsName key ∧ ∃ behind, cs = key ++ '!' :: behind := by
  constructor
  · intro h
    obtain ⟨behind, rfl, hne, hchars⟩ := tokenKey?_eq_some h
    exact ⟨⟨hne, hchars⟩, behind, rfl⟩
  · rintro ⟨hkey, behind, rfl⟩
    have htake : (key ++ '!' :: behind).takeWhile isKeyChar = key :=
      TokenKind.takeWhile_inName hkey behind
    simp [tokenKey?, htake, hkey.1]

namespace MetadataPiece

/-- A piece as a character or a token. -/
def view : MetadataPiece → Char ⊕ List Char
  | .char c => .inl c
  | .token key => .inr key

/-- Pieces as the texts between their tokens. -/
def segments (pieces : List MetadataPiece) : Segments :=
  Segments.ofPieces view pieces

@[simp]
theorem segments_nil : segments [] = ⟨[], []⟩ := rfl

@[simp]
theorem segments_char (c : Char) (pieces : List MetadataPiece) :
    segments (.char c :: pieces) = ⟨c :: (segments pieces).front, (segments pieces).rest⟩ := rfl

@[simp]
theorem segments_token (key : List Char) (pieces : List MetadataPiece) :
    segments (.token key :: pieces) =
      ⟨[], (key, (segments pieces).front) :: (segments pieces).rest⟩ := rfl

/-- The tokens of a text are its leftmost ones, wherever they stand. -/
theorem readFrom_cuts (skip : Nat) (cs : List Char) :
    (segments (readFrom skip cs)).Cuts metadataKind (fun _ => True) (cs.drop skip) := by
  fun_induction readFrom skip cs with
  | case1 => simpa using Segments.Cuts.nil
  | case2 skip c cs ih => simpa using ih
  | case3 cs key found ih =>
    obtain ⟨hkey, behind, rfl⟩ := (tokenKey?_eq_some_iff _ _).1 found
    have htext : '!' :: (key ++ '!' :: behind) = metadataKind.text key ++ behind := by
      simp [TokenKind.text, metadataKind]
    have hdrop : (key ++ '!' :: behind).drop (key.length + 1) = behind := by
      simp [List.drop_append]
    rw [hdrop] at ih
    rw [segments_token, List.drop_zero, htext]
    exact ih.token hkey trivial
  | case4 cs hnone ih =>
    rw [segments_char, List.drop_zero]
    refine Segments.Cuts.cons (by simpa using ih) ?_
    rintro - ⟨key, behind, hkey, htext⟩
    have hcs : cs = key ++ '!' :: behind := by
      simpa [TokenKind.text, metadataKind] using htext
    rw [(tokenKey?_eq_some_iff cs key).2 ⟨hkey, behind, hcs⟩] at hnone
    simp at hnone
  | case5 c cs hmark ih =>
    rw [segments_char, List.drop_zero]
    refine Segments.Cuts.cons (by simpa using ih) ?_
    rintro - ⟨key, behind, -, htext⟩
    exact hmark (List.cons.inj htext).1

/-! ## Reading up to a break -/

end MetadataPiece

/-- A text that does not begin with a character that a token may hold. -/
def BreaksTokens (cs : List Char) : Prop :=
  ∀ c ∈ cs.head?, c ≠ '!' ∧ isKeyChar c = false

/-- A text that begins with a mark of slots and placeholders breaks tokens. -/
theorem BeginsMarked.breaksTokens {cs : List Char} (marked : BeginsMarked cs) :
    BreaksTokens cs := by
  intro c hc
  rcases (mem_slotMarks_iff c).1 (marked c hc) with rfl | rfl | rfl | rfl <;> decide

/-- No token reaches into what breaks it. -/
theorem tokenKey?_append {b : List Char} (breaks : BreaksTokens b) (cs : List Char) :
    tokenKey? (cs ++ b) = tokenKey? cs := by
  ext key
  rw [tokenKey?_eq_some_iff, tokenKey?_eq_some_iff]
  refine and_congr_right fun hkey => ⟨?_, ?_⟩
  · rintro ⟨behind, htext⟩
    rcases List.append_eq_append_iff.1 htext with ⟨inside, rfl, hb⟩ | ⟨behind', rfl, hb⟩
    · -- the break would stand inside the key or be its closing mark
      cases inside with
      | nil => exact absurd rfl (breaks '!' (by simp [hb])).1
      | cons c inside =>
        have hc := (breaks c (by simp [hb])).2
        have hinName : isKeyChar c = true := hkey.2 c (by simp)
        exact absurd hinName (by simp [hc])
    · cases behind' with
      | nil =>
        obtain rfl : '!' :: behind = b := hb
        exact absurd rfl (breaks '!' (by simp)).1
      | cons c behind' =>
        obtain ⟨rfl, -⟩ := List.cons.inj hb
        exact ⟨behind', rfl⟩
  · rintro ⟨behind, rfl⟩
    exact ⟨behind ++ b, by simp⟩

namespace MetadataPiece

/-- Before a break a text is read on its own. -/
theorem readFrom_append {b : List Char} (breaks : BreaksTokens b) (skip : Nat) (a : List Char)
    (h : skip ≤ a.length) : readFrom skip (a ++ b) = readFrom skip a ++ readFrom 0 b := by
  fun_induction readFrom skip a with
  | case1 skip =>
    obtain rfl : skip = 0 := by simpa using h
    rfl
  | case2 skip c cs ih => exact ih (by simpa using h)
  | case3 cs key found ih =>
    obtain ⟨behind, rfl, -⟩ := tokenKey?_eq_some found
    rw [List.cons_append, readFrom, if_pos rfl, tokenKey?_append breaks, found]
    exact congrArg (.token key :: ·) (ih (by simp))
  | case4 cs hnone ih =>
    rw [List.cons_append, readFrom, if_pos rfl, tokenKey?_append breaks, hnone]
    exact congrArg (.char '!' :: ·) (ih (by simp))
  | case5 c cs hmark ih =>
    rw [List.cons_append, readFrom, if_neg hmark]
    exact congrArg (.char c :: ·) (ih (by simp))

/-- What holds no mark is copied. -/
theorem readFrom_unmarked {a : List Char} (h : '!' ∉ a) (b : List Char) :
    readFrom 0 (a ++ b) = a.map .char ++ readFrom 0 b := by
  induction a with
  | nil => rfl
  | cons c a ih =>
    have hc : c ≠ '!' := List.ne_of_not_mem_cons h |>.symm
    rw [List.cons_append, readFrom, if_neg hc, ih (List.not_mem_of_not_mem_cons h)]
    rfl

end MetadataPiece

/-! ## Substitution -/

namespace Metadata

variable (m : Metadata)

/-- Writing the pieces of a statement is filling its tokens with escaped values. -/
theorem flatMap_write_eq_fillFrom (pieces : List MetadataPiece) (index : Nat) :
    pieces.flatMap m.write =
      (MetadataPiece.segments pieces).front ++
        Segments.fillFrom (fun _ key => quotedSql ((m.lookup (String.ofList key)).getD "")) index
          (MetadataPiece.segments pieces).rest := by
  induction pieces generalizing index with
  | nil => rfl
  | cons piece pieces ih =>
    rw [List.flatMap_cons]
    cases piece with
    | char c => rw [ih index]; rfl
    | token key => rw [ih (index + 1)]; simp [write, Segments.fillFrom]

/-- In a text each leftmost token is replaced by the quoted value of its key, and all else is
copied. -/
theorem spliceChars_cuts (cs : List Char) :
    ∃ s : Segments, s.Cuts metadataKind (fun _ => True) cs ∧
      m.spliceChars cs =
        s.fill (fun _ key => quotedSql ((m.lookup (String.ofList key)).getD "")) :=
  ⟨_, by simpa using MetadataPiece.readFrom_cuts 0 cs, m.flatMap_write_eq_fillFrom _ 0⟩

/-- Two texts are spliced one after the other if no token goes on from the first into the second. -/
theorem spliceChars_append {b : List Char} (breaks : BreaksTokens b) (a : List Char) :
    m.spliceChars (a ++ b) = m.spliceChars a ++ m.spliceChars b := by
  unfold spliceChars
  rw [MetadataPiece.readFrom_append breaks 0 a (Nat.zero_le _), List.flatMap_append]

theorem spliceChars_unmarked {a : List Char} (h : '!' ∉ a) (b : List Char) :
    m.spliceChars (a ++ b) = a ++ m.spliceChars b := by
  have hcopied : (a.map MetadataPiece.char).flatMap m.write = a := by
    rw [List.flatMap_map]
    exact List.flatMap_singleton' a
  unfold spliceChars
  rw [MetadataPiece.readFrom_unmarked h, List.flatMap_append, hcopied]

end Metadata

/-- No exclamation mark stands in a placeholder. -/
theorem placeholder_unmarked (d : Dialect) (index : Nat) : '!' ∉ d.placeholder index := by
  have hdigits : '!' ∉ Nat.toDigits 10 (index + 1) := by
    intro hmem
    have hdigit := Nat.isDigit_of_mem_toDigits (by decide) (by decide) hmem
    exact absurd hdigit (by decide)
  cases d <;> simp [Dialect.placeholder, hdigits]

/-- What goes on with a placeholder, if it goes on, breaks tokens. -/
theorem fillFrom_placeholder_breaks (d : Dialect) (index : Nat)
    (rest : List (List Char × List Char)) :
    BreaksTokens (Segments.fillFrom (fun i _ => d.placeholder i) index rest) := by
  cases rest with
  | nil => exact beginsMarked_nil.breaksTokens
  | cons segment rest =>
    rw [Segments.fillFrom, List.append_assoc]
    exact (placeholder_beginsMarked d index _).breaksTokens

namespace Metadata

variable (m : Metadata) (d : Dialect)

/-- Placeholders stay while the texts between them are spliced. -/
theorem spliceChars_fillFrom (index : Nat) (front : List Char)
    (rest : List (List Char × List Char)) :
    m.spliceChars (front ++ Segments.fillFrom (fun i _ => d.placeholder i) index rest) =
      m.spliceChars front ++ Segments.fillFrom (fun i _ => d.placeholder i) index
        (rest.map fun segment => (segment.1, m.spliceChars segment.2)) := by
  induction rest generalizing index front with
  | nil => simp [Segments.fillFrom]
  | cons segment rest ih =>
    rw [m.spliceChars_append (fillFrom_placeholder_breaks d index _), Segments.fillFrom,
      List.append_assoc, m.spliceChars_unmarked (placeholder_unmarked d index), ih (index + 1)]
    simp [Segments.fillFrom]

/-- Texts between placeholders are substituted one by one. -/
theorem spliceChars_fill (s : Segments) :
    m.spliceChars (s.fill fun i _ => d.placeholder i) =
      (s.mapTexts m.spliceChars).fill fun i _ => d.placeholder i :=
  m.spliceChars_fillFrom d 0 s.front s.rest

/-- The SQL text of every body, cut at the placeholders of its slots, keeps each of these in its
place when request values are put in: each text between them is substituted on its own, its
leftmost tokens replaced by quoted values and all else copied.  The placeholders are as many as the
names that are bound, before and after. -/
theorem splice_render (body : List Char) :
    ∃ s : Segments, s.Cuts slotKind OutsideQuotes body ∧
      (Template.ofBody body).render d = s.fill (fun index _ => d.placeholder index) ∧
      m.splice (String.ofList ((Template.ofBody body).render d)) =
        String.ofList ((s.mapTexts m.spliceChars).fill fun index _ => d.placeholder index) ∧
      (∀ text, ∃ tokens : Segments, tokens.Cuts metadataKind (fun _ => True) text ∧
        m.spliceChars text =
          tokens.fill (fun _ key => quotedSql ((m.lookup (String.ofList key)).getD ""))) ∧
      (s.mapTexts m.spliceChars).names = (Template.ofBody body).names ∧
      ∀ (ps : Parameters) (values : List Parameter),
        bindNames ps ((Template.ofBody body).names.map String.ofList) = .ok values →
          values.length = (s.mapTexts m.spliceChars).rest.length := by
  have hnames : ((Template.ofBody body).segments.mapTexts m.spliceChars).names =
      (Template.ofBody body).names := by
    simp [Template.names_eq, Segments.names, Segments.mapTexts]
  refine ⟨(Template.ofBody body).segments, Template.ofBody_cuts body,
    Template.render_eq_fill d _, ?_, m.spliceChars_cuts, hnames, ?_⟩
  · rw [splice, String.toList_ofList, Template.render_eq_fill, m.spliceChars_fill d]
  · intro ps values hbound
    have hvalues := congrArg List.length ((bindNames_eq_ok_iff ps _ values).1 hbound)
    have hcount := congrArg List.length hnames
    simp only [List.length_map, Segments.names] at hvalues hcount
    rw [← hvalues, ← hcount]

end Metadata
end SqlRelay
