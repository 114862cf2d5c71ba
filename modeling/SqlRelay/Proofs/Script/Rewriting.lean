import SqlRelay.Proofs.Script.Segments
import SqlRelay.Proofs.Script.Slots
/-!
# Slots become placeholders

A body is cut at its slots, and in the SQL text of a dialect each slot is a placeholder.  All that
is lost on the way are the places of the slots: with them and the names the body is restored.

Main results:

- Theorem `Template.ofBody_cuts`: the slots of a body are its leftmost tokens outside quotes.
- Theorem `Template.render_eq_fill`: SQL text has the placeholders in order, one for each slot.
- Definition `restoreBody` and theorem `restoreBody_fill`: slots are put back for placeholders.
- Theorem `Template.render_reversible`: all of this for every body.
-/

namespace SqlRelay

/-- Slots stand between question marks, and their names end at question marks, line feeds and
quotes. -/
def slotKind : TokenKind where
  mark := '?'
  inName c := !endsSlotName c
  inName_mark := by decide

/-- No literal is open after a text, with no regard to comments. -/
def OutsideQuotes (before : List Char) : Prop :=
  Template.quoteAfter before = none

/-- A slot begins where a name and its closing mark follow. -/
theorem slotName?_eq_some_iff (cs name : List Char) :
    slotName? cs = some name ↔ slotKind.IsName name ∧ ∃ behind, cs = name ++ '?' :: behind := by
  constructor
  · intro h
    obtain ⟨behind, rfl, hne, hchars⟩ := Template.slotName?_eq_some h
    exact ⟨⟨hne, fun c hc => by simp [slotKind, hchars c hc]⟩, behind, rfl⟩
  · rintro ⟨hname, behind, rfl⟩
    have htake : (name ++ '?' :: behind).takeWhile (fun c => !endsSlotName c) = name :=
      TokenKind.takeWhile_inName hname behind
    simp [slotName?, htake, hname.1]

/-- A piece of a template as a character or a token. -/
def Piece.view : Piece → Char ⊕ List Char
  | .char c => .inl c
  | .slot name => .inr name

namespace Template

/-- A template as the texts between its slots. -/
def segments (t : Template) : Segments :=
  Segments.ofPieces Piece.view t

@[simp]
theorem segments_nil : segments [] = ⟨[], []⟩ := rfl

@[simp]
theorem segments_char (c : Char) (t : Template) :
    segments (.char c :: t) = ⟨c :: t.segments.front, t.segments.rest⟩ := rfl

@[simp]
theorem segments_slot (name : List Char) (t : Template) :
    segments (.slot name :: t) = ⟨[], (name, t.segments.front) :: t.segments.rest⟩ := rfl

section Readers

variable {σ : Type} {step : σ → Char → σ} {isOpen : σ → Bool}

/-- Where a reader is open and finds no slot, none begins. -/
theorem not_begins_of_slotAt? {c : Char} {cs : List Char} {mayBegin : Bool}
    (h : slotAt? mayBegin c cs = none) (hbegin : mayBegin = true) :
    ¬ slotKind.Begins (c :: cs) := by
  rintro ⟨name, behind, hname, htext⟩
  have htext : c :: cs = '?' :: (name ++ '?' :: behind) := by
    simpa [TokenKind.text, slotKind] using htext
  obtain ⟨rfl, rfl⟩ := List.cons.inj htext
  have hfound := (slotName?_eq_some_iff _ name).2 ⟨hname, behind, rfl⟩
  simp [slotAt?, hbegin, hfound] at h

/-- A reader cuts a text at its leftmost slots, where it is open to them. -/
theorem readWith_cuts (s : σ) (skip : Nat) (cs : List Char) :
    (segments (readWith step isOpen s skip cs)).Cuts slotKind
      (fun before => isOpen ((cs.take skip ++ before).foldl step s) = true) (cs.drop skip) := by
  fun_induction readWith step isOpen s skip cs with
  | case1 => simpa using Segments.Cuts.nil
  | case2 s skip c cs ih => simpa using ih
  | case3 s c cs name found ih =>
    obtain ⟨hopen, rfl, hname⟩ := slotAt?_eq_some found
    obtain ⟨hisName, behind, rfl⟩ := (slotName?_eq_some_iff _ _).1 hname
    have htext : '?' :: (name ++ '?' :: behind) = slotKind.text name ++ behind := by
      simp [TokenKind.text, slotKind]
    have hdrop : (name ++ '?' :: behind).drop (name.length + 1) = behind := by
      simp [List.drop_append]
    rw [segments_slot, List.drop_zero, htext]
    refine Segments.Cuts.token ?_ hisName (by simpa using hopen)
    rw [hdrop, take_slot hname] at ih
    simpa [TokenKind.text, slotKind] using ih
  | case4 s c cs found ih =>
    rw [segments_char, List.drop_zero]
    refine Segments.Cuts.cons (by simpa using ih) fun hopen => ?_
    exact not_begins_of_slotAt? found (by simpa using hopen)

end Readers

/-- The slots of a body are its leftmost tokens outside quotes. -/
theorem ofBody_cuts (body : List Char) :
    (ofBody body).segments.Cuts slotKind OutsideQuotes body := by
  have hcuts := @readWith_cuts _ quoteStep Option.isNone none 0 body
  rw [← ofBody_eq_readWith] at hcuts
  simp only [List.take_zero, List.nil_append, List.drop_zero, Option.isNone_iff_eq_none] at hcuts
  exact hcuts

/-! ## Writing and restoring the body -/

/-- The names of a template are those of its segments. -/
theorem names_eq (t : Template) : t.names = t.segments.names := by
  induction t with
  | nil => rfl
  | cons piece t ih =>
    cases piece <;> simpa [names, pieceName?, Segments.names, List.filterMap_cons] using ih

/-- Writing a template is filling its slots with placeholders. -/
theorem renderFrom_eq_fillFrom (d : Dialect) (index : Nat) (t : Template) :
    renderFrom d index t =
      t.segments.front ++ Segments.fillFrom (fun i _ => d.placeholder i) index t.segments.rest := by
  induction t generalizing index with
  | nil => rfl
  | cons piece t ih => cases piece <;> simp [renderFrom, Segments.fillFrom, ih]

/-- SQL text has the placeholders in order, one for each slot. -/
theorem render_eq_fill (d : Dialect) (t : Template) :
    t.render d = t.segments.fill (fun i _ => d.placeholder i) :=
  renderFrom_eq_fillFrom d 0 t

end Template

/-- Puts slots in the place of placeholders, of which the first has the given index: each has a
name and the place where it began in the body, of which `offset` characters are restored. -/
def restoreFrom (d : Dialect) : Nat → Nat → List (Nat × List Char) → List Char → List Char
  | _, _, [], sql => sql
  | index, offset, (start, name) :: slots, sql =>
    sql.take (start - offset) ++ slotKind.text name ++
      restoreFrom d (index + 1) (start + (slotKind.text name).length) slots
        (sql.drop (start - offset + (d.placeholder index).length))

/-- The body of SQL text, restored from the places and names of its slots. -/
def restoreBody (d : Dialect) (starts : List Nat) (names : List (List Char)) (sql : List Char) :
    List Char :=
  restoreFrom d 0 0 (starts.zip names) sql

/-- The placeholders at the recorded places are turned back into the slots. -/
theorem restoreFrom_fillFrom (d : Dialect) (index offset : Nat) (front : List Char)
    (rest : List (List Char × List Char)) :
    restoreFrom d index offset
        ((Segments.startsFrom slotKind offset front rest).zip (rest.map (·.1)))
        (front ++ Segments.fillFrom (fun i _ => d.placeholder i) index rest) =
      Segments.source slotKind ⟨front, rest⟩ := by
  induction rest generalizing index offset front with
  | nil => simp [Segments.startsFrom, Segments.fillFrom, restoreFrom]
  | cons segment rest ih =>
    obtain ⟨name, next⟩ := segment
    have hbehind := ih (index + 1) (offset + front.length + (slotKind.text name).length) next
    simp only [Segments.startsFrom, Segments.fillFrom, List.map_cons, List.zip_cons_cons,
      restoreFrom, Segments.source_cons, Nat.add_sub_cancel_left]
    rw [List.append_assoc (d.placeholder index), List.take_left, ← List.drop_drop, List.drop_left,
      List.drop_left, hbehind]

/-- Slots that are put back for placeholders restore the body. -/
theorem restoreBody_fill (d : Dialect) (s : Segments) :
    restoreBody d (s.starts slotKind) s.names (s.fill fun i _ => d.placeholder i) =
      s.source slotKind :=
  restoreFrom_fillFrom d 0 0 s.front s.rest

/-- Every body is cut at its leftmost slots outside quotes, and in one way only.  In every dialect
its SQL text has placeholders in the order of their indexes for the slots and else the texts between
them, the names are those of the slots in order, and from both, with the places of the slots, the
body is restored. -/
theorem Template.render_reversible (body : List Char) :
    ∃ s : Segments, s.Cuts slotKind OutsideQuotes body ∧
      (∀ other : Segments, other.Cuts slotKind OutsideQuotes body → other = s) ∧
      (ofBody body).names = s.names ∧ (ofBody body).names.length = s.rest.length ∧
      ∀ d : Dialect, (ofBody body).render d = s.fill (fun index _ => d.placeholder index) ∧
        restoreBody d (s.starts slotKind) (ofBody body).names ((ofBody body).render d) = body := by
  have cuts := ofBody_cuts body
  refine ⟨(ofBody body).segments, cuts, fun other hother => hother.unique cuts,
    names_eq _, ?_, fun d => ⟨render_eq_fill d _, ?_⟩⟩
  · rw [names_eq, Segments.names, List.length_map]
  · rw [names_eq, render_eq_fill, restoreBody_fill, cuts.source_eq]

end SqlRelay
