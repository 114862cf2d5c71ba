import Mathlib.Data.List.Forall2
import Mathlib.Tactic.IntervalCases
import SqlRelay.Json.Reader
import SqlRelay.Proofs.Text.Utf8
/-!
# Reading what has been written

A written document is read back: bytes make marks, and marks make a tree.  Both machines are
followed together.  A word only ends where something else begins, so a reader that has collected a
word counts as one that has read it already.

Main results:

- Theorem `readText?_units`: a text is what its bytes and escapes decode to.
- Definition `ReadsAs`: a text is read as a tree wherever a value may begin.
- Theorems `readsAs_quoted`, `readsAs_array` and `readsAs_object`: what is written is read as its
  parts are.
- Theorem `ofBytes?_of_readsAs`: a document that consists of it has that tree.
-/

namespace SqlRelay.Json

open Utf8 (encodeChars encodeChars_nil encodeChars_cons encodeChars_append mem_encodeChar)

/-- The characters that are written with their number: those below the blank that have no letter. -/
def isNumbered (c : Char) : Bool :=
  decide (c.toNat < 0x20) && !(['\x08', '\x0c', '\n', '\r', '\t'].contains c)

/-- What a written character is read as. -/
def charUnits (c : Char) : List TextUnit :=
  if isNumbered c then [.code c.toNat] else (String.utf8EncodeChar c).map .byte

/-- What a written text is read as. -/
def units (s : String) : List TextUnit :=
  s.toList.flatMap charUnits

/-- Bytes that neither end a text nor escape are kept. -/
theorem foldlM_advance_bytes {bytes : List UInt8}
    (h : ∀ b ∈ bytes, b ≠ 0x22 ∧ b ≠ 0x5C ∧ ¬ b < 0x20) (back : List TextUnit)
    (found : List Mark) :
    bytes.foldlM advance (.text back, found) =
      some (.text ((bytes.map .byte).reverse ++ back), found) := by
  induction bytes generalizing back with
  | nil => rfl
  | cons b bytes ih =>
    rw [List.forall_mem_cons] at h
    obtain ⟨⟨hquote, hescape, hcontrol⟩, hbytes⟩ := h
    have hstep : advance (.text back, found) b = some (.text (.byte b :: back), found) := by
      simp [advance, Reading.step, hquote, hescape, hcontrol]
    simp [List.foldlM_cons, hstep, ih hbytes]

/-- A written character inside a text is read as its units. -/
theorem foldlM_advance_escapeChar (c : Char) (back : List TextUnit) (found : List Mark) :
    (encodeChars (escapeChar c)).foldlM advance (.text back, found) =
      some (.text ((charUnits c).reverse ++ back), found) := by
  by_cases hcontrol : c.toNat < 0x20
  · rw [← Char.ofNat_toNat c]
    generalize c.toNat = n at hcontrol
    interval_cases n <;> rfl
  · by_cases hquote : c = '"'
    · subst hquote
      rfl
    · by_cases hescape : c = '\\'
      · subst hescape
        rfl
      · -- the character stands for itself, and none of its bytes is a mark
        have hwritten : escapeChar c = [c] := by
          have hother {d : Char} (hd : d.toNat < 0x20) : c ≠ d := by
            rintro rfl
            exact hcontrol hd
          simp [escapeChar, hquote, hescape, hcontrol, hother (d := '\x08') (by decide),
            hother (d := '\x0c') (by decide), hother (d := '\n') (by decide),
            hother (d := '\r') (by decide), hother (d := '\t') (by decide)]
        have hnumber {d : Char} (hd : c ≠ d) : c.toNat ≠ d.toNat := by
          intro heq
          exact hd (Char.toNat_inj.1 heq)
        have hbytes : ∀ b ∈ String.utf8EncodeChar c, b ≠ 0x22 ∧ b ≠ 0x5C ∧ ¬ b < 0x20 := by
          intro b hb
          have hquote' : c.toNat ≠ 0x22 := hnumber hquote
          have hescape' : c.toNat ≠ 0x5C := hnumber hescape
          have hb' := mem_encodeChar hb
          simp only [ne_eq, ← UInt8.toNat_inj, UInt8.lt_iff_toNat_lt, UInt8.reduceToNat]
          omega
        rw [hwritten, encodeChars_cons, encodeChars_nil, List.append_nil,
          foldlM_advance_bytes hbytes, charUnits]
        simp [isNumbered, hcontrol]

/-- Escaped characters add their units to a text that is being read. -/
theorem foldlM_advance_escaped (cs : List Char) (back : List TextUnit) (found : List Mark) :
    (encodeChars (cs.flatMap escapeChar)).foldlM advance (.text back, found) =
      some (.text ((cs.flatMap charUnits).reverse ++ back), found) := by
  induction cs generalizing back with
  | nil => rfl
  | cons c cs ih =>
    rw [List.flatMap_cons, encodeChars_append, List.foldlM_append, foldlM_advance_escapeChar]
    simp [ih]

/-- A text between quotes is read as one mark. -/
theorem foldlM_advance_quoted (s : String) (found : List Mark) :
    (encodeChars (quoted s)).foldlM advance (.between, found) =
      some (.between, .text (units s) :: found) := by
  have hopen : (String.utf8EncodeChar '"').foldlM advance (.between, found) =
      some (.text [], found) := rfl
  have hclose (back : List TextUnit) : (encodeChars ['"']).foldlM advance (.text back, found) =
      some (.between, .text back.reverse :: found) := rfl
  rw [quoted, List.cons_append, encodeChars_cons, encodeChars_append, List.foldlM_append, hopen]
  simp [List.foldlM_append, foldlM_advance_escaped, hclose, units]

/-- The units of a character make its bytes. -/
theorem foldlM_appendUnit_charUnits (c : Char) (back : List UInt8) :
    (charUnits c).foldlM appendUnit (none, back) =
      some (none, (String.utf8EncodeChar c).reverse ++ back) := by
  have hbytes (bytes : List UInt8) : (bytes.map TextUnit.byte).foldlM appendUnit (none, back) =
      some (none, bytes.reverse ++ back) := by
    induction bytes generalizing back with
    | nil => rfl
    | cons b bytes ih => simp [appendUnit, ih]
  unfold charUnits
  split
  case isTrue hnumbered =>
    have hcontrol : c.toNat < 0x20 := by
      simp only [isNumbered, Bool.and_eq_true, decide_eq_true_eq] at hnumbered
      exact hnumbered.1
    have hleading : isLeading c.toNat = false := by
      simp only [isLeading, Bool.and_eq_false_iff, decide_eq_false_iff_not]
      omega
    have htrailing : isTrailing c.toNat = false := by
      simp only [isTrailing, Bool.and_eq_false_iff, decide_eq_false_iff_not]
      omega
    simp [appendUnit, hleading, htrailing, codeBytes]
  case isFalse => exact hbytes _

/-- A text is what its units decode to. -/
theorem readText?_units (s : String) : readText? (units s) = some s := by
  have hbytes (cs : List Char) (back : List UInt8) :
      (cs.flatMap charUnits).foldlM appendUnit (none, back) =
        some (none, (encodeChars cs).reverse ++ back) := by
    induction cs generalizing back with
    | nil => rfl
    | cons c cs ih =>
      rw [List.flatMap_cons, List.foldlM_append, foldlM_appendUnit_charUnits]
      simp [ih, encodeChars_cons]
  rw [readText?, units, hbytes, List.append_nil]
  simp only [List.reverse_reverse]
  exact Utf8.strict?_encode s

/-! ## Both machines -/

/-- The marks that a reader has found if it is at the end of a mark, in reverse. -/
def finished : Reading × List Mark → Option (List Mark)
  | (.between, back) => some back
  | (.word word, back) => (word? word.reverse).map (· :: back)
  | _ => none

/-- A reader at the end of a mark is between marks, or it has collected a word. -/
theorem finished_cases {reading : Reading} {found back : List Mark}
    (h : finished (reading, found) = some back) :
    reading = .between ∧ back = found ∨
      ∃ word mark, reading = .word word ∧ word? word.reverse = some mark ∧
        back = mark :: found := by
  cases reading with
  | between => exact .inl ⟨rfl, (Option.some.inj h).symm⟩
  | word word =>
    obtain ⟨mark, hmark, heq⟩ := Option.map_eq_some_iff.1 h
    exact .inr ⟨word, mark, rfl, hmark, heq.symm⟩
  | text => cases h
  | escape => cases h
  | hex => cases h

/-- The marks that a reader has found so far bring a tree to this growth. -/
def At (state : Reading × List Mark) (g : Growth) : Prop :=
  ∃ back, finished state = some back ∧ back.reverse.foldlM Growth.step .start = some g

/-- From one growth a text leads to another one, wherever a mark may begin. -/
def Leads (g : Growth) (cs : List Char) (g' : Growth) : Prop :=
  ∀ state, state.1 = .between → At state g →
    ∃ state', (encodeChars cs).foldlM advance state = some state' ∧ At state' g'

/-- So it does behind any mark, also one that ends only here. -/
def Follows (g : Growth) (cs : List Char) (g' : Growth) : Prop :=
  ∀ state, At state g →
    ∃ state', (encodeChars cs).foldlM advance state = some state' ∧ At state' g'

variable {g g' g'' : Growth} {a b : List Char}

/-- A text that leads on, with a text behind it that follows, leads on. -/
theorem Leads.append (ha : Leads g a g') (hb : Follows g' b g'') : Leads g (a ++ b) g'' := by
  intro state hbetween hat
  obtain ⟨state', hrun, hat'⟩ := ha state hbetween hat
  obtain ⟨state'', hrun', hat''⟩ := hb state' hat'
  exact ⟨state'', by simp [encodeChars_append, List.foldlM_append, hrun, hrun'], hat''⟩

/-- A found mark takes the tree one step on. -/
theorem At.step {back : List Mark} {m : Mark}
    (h : back.reverse.foldlM Growth.step .start = some g) (hstep : g.step m = some g') :
    At (.between, m :: back) g' := by
  refine ⟨m :: back, rfl, ?_⟩
  rw [List.reverse_cons, List.foldlM_append, h]
  simpa using hstep

/-- The punctuation marks. -/
inductive Punctuation : Char → Mark → Prop
  | openArray : Punctuation '[' .openArray
  | closeArray : Punctuation ']' .closeArray
  | openObject : Punctuation '\x7b' .openObject
  | closeObject : Punctuation '\x7d' .closeObject
  | comma : Punctuation ',' .comma
  | colon : Punctuation ':' .colon

/-- Punctuation ends a word. -/
theorem Punctuation.advance {c : Char} {m : Mark} (h : Punctuation c m)
    {state : Reading × List Mark} {back : List Mark} (hfinished : finished state = some back) :
    (String.utf8EncodeChar c).foldlM Json.advance state = some (.between, m :: back) := by
  obtain ⟨b, hbyte, hword, hbegin⟩ : ∃ b, String.utf8EncodeChar c = [b] ∧
      isWordByte b = false ∧ beginMark b = some (.between, [m]) := by
    cases h <;> exact ⟨_, rfl, by decide, rfl⟩
  obtain ⟨reading, found⟩ := state
  have hstep : Json.advance (reading, found) b = some (.between, m :: back) := by
    rcases finished_cases hfinished with ⟨rfl, rfl⟩ | ⟨word, mark, rfl, hmark, rfl⟩
    · simp [Json.advance, Reading.step, hbegin]
    · simp [Json.advance, Reading.step, hword, hmark, hbegin]
  simp [hbyte, hstep]

/-- Behind punctuation the text goes on between marks. -/
theorem Punctuation.follows {c : Char} {m : Mark} (h : Punctuation c m) {cs : List Char}
    (hstep : g.step m = some g') (rest : Leads g' cs g'') : Follows g (c :: cs) g'' := by
  rintro state ⟨back, hfinished, hback⟩
  obtain ⟨state', hrun, hat⟩ := rest _ rfl (At.step hback hstep)
  exact ⟨state', by simp [encodeChars_cons, List.foldlM_append, h.advance hfinished, hrun], hat⟩

theorem Follows.leads (h : Follows g a g') : Leads g a g' :=
  fun state _ hat => h state hat

theorem Leads.nil (g : Growth) : Leads g [] g :=
  fun state _ hat => ⟨state, rfl, hat⟩

/-! ## Values -/

/-- A text is read as a tree wherever a value may begin. -/
def ReadsAs (cs : List Char) (t : Tree) : Prop :=
  ∀ stack want found, want = .value ∨ want = .valueOrClose →
    Leads ⟨stack, want, found⟩ cs (Growth.deliver stack t)

/-- Where a value may begin, a mark that closes nothing begins one. -/
theorem Growth.step_of_value {stack : List Frame} {want : Want} {found : Tree} {m : Mark}
    (hwant : want = .value ∨ want = .valueOrClose) (harray : m ≠ .closeArray)
    (hobject : m ≠ .closeObject) : step ⟨stack, want, found⟩ m = beginValue stack m := by
  rcases hwant with rfl | rfl
  · rfl
  · have hclose : close stack m = none := by
      unfold close
      split <;> simp_all
    simp [step, hclose]

/-- A name of three to five letters is read as its value. -/
theorem readsAs_word {word : List Char} {m : Mark} {t : Tree}
    (hrun : ∀ found, (encodeChars word).foldlM advance (.between, found) =
      some (.word word.reverse, found))
    (hmark : word? word = some m) (harray : m ≠ .closeArray) (hobject : m ≠ .closeObject)
    (hvalue : ∀ stack, Growth.beginValue stack m = some (Growth.deliver stack t)) :
    ReadsAs word t := by
  rintro stack want found hwant ⟨_, back⟩ rfl ⟨_, hfinished, hback⟩
  obtain rfl : back = _ := Option.some.inj hfinished
  refine ⟨_, hrun back, m :: back, by simp [finished, hmark], ?_⟩
  rw [List.reverse_cons, List.foldlM_append, hback]
  simp [Growth.step_of_value hwant harray hobject, hvalue]

/-- A flag is read back. -/
theorem readsAs_bool (b : Bool) : ReadsAs (Json.bool b).chars (.bool b) := by
  cases b with
  | true =>
    exact readsAs_word (m := .bool true) (fun _ => rfl) rfl (by simp) (by simp) (fun _ => rfl)
  | false =>
    exact readsAs_word (m := .bool false) (fun _ => rfl) rfl (by simp) (by simp) (fun _ => rfl)

/-- A text leads on as its mark does. -/
theorem leads_quoted {s : String} (hstep : g.step (.text (units s)) = some g') :
    Leads g (quoted s) g' := by
  rintro ⟨_, back⟩ rfl ⟨_, hfinished, hback⟩
  obtain rfl : back = _ := Option.some.inj hfinished
  exact ⟨_, foldlM_advance_quoted s back, At.step hback hstep⟩

/-- A quoted text is read back. -/
theorem readsAs_quoted (s : String) : ReadsAs (quoted s) (.text (units s)) := by
  intro stack want found hwant
  apply leads_quoted
  rw [Growth.step_of_value hwant (by simp) (by simp)]
  rfl

/-- Items behind others are put behind them. -/
theorem follows_moreItems {items : List Json} {trees : List Tree}
    (h : List.Forall₂ (fun item t => ReadsAs item.chars t) items trees) (back : List Tree)
    (stack : List Frame) :
    Follows ⟨.array back :: stack, .next, .null⟩ (moreItems items)
      (Growth.deliver stack (.array (back.reverse ++ trees))) := by
  induction h generalizing back with
  | nil =>
    rw [moreItems, List.append_nil]
    exact Punctuation.closeArray.follows rfl (.nil _)
  | @cons item t items trees hitem _ ih =>
    have hrest := ih (t :: back)
    rw [List.reverse_cons, List.append_assoc, List.singleton_append] at hrest
    rw [moreItems]
    apply Punctuation.comma.follows rfl
    exact (hitem (.array back :: stack) .value .null (.inl rfl)).append hrest

/-- An array is read as its items are. -/
theorem readsAs_array {items : List Json} {trees : List Tree}
    (h : List.Forall₂ (fun item t => ReadsAs item.chars t) items trees) :
    ReadsAs (Json.array items).chars (.array trees) := by
  intro stack want found hwant
  have hopen : Growth.step ⟨stack, want, found⟩ .openArray =
      some ⟨.array [] :: stack, .valueOrClose, .null⟩ :=
    Growth.step_of_value hwant (by simp) (by simp)
  rw [chars]
  apply (Punctuation.openArray.follows hopen _).leads
  cases h with
  | nil =>
    rw [itemsChars]
    exact (Punctuation.closeArray.follows rfl (.nil _)).leads
  | @cons item t items trees hitem hrest =>
    rw [itemsChars]
    exact (hitem _ .valueOrClose .null (.inr rfl)).append (follows_moreItems hrest [t] stack)

/-- A member is read as a key and a value. -/
def MemberReadsAs (member : String × Json) (read : List TextUnit × Tree) : Prop :=
  read.1 = units member.1 ∧ ReadsAs member.2.chars read.2

/-- Where a key may stand, a member is put into its object. -/
theorem leads_member {name : String} {cs : List Char} {t : Tree} (h : ReadsAs cs t)
    {back : List (List TextUnit × Tree)} {key : List TextUnit} {stack : List Frame} {want : Want}
    (hwant : want = .key ∨ want = .keyOrClose) :
    Leads ⟨.object back key :: stack, want, .null⟩ (quoted name ++ ':' :: cs)
      ⟨.object ((units name, t) :: back) [] :: stack, .next, .null⟩ := by
  have hkey : Growth.step ⟨.object back key :: stack, want, .null⟩ (.text (units name)) =
      some ⟨.object back (units name) :: stack, .colon, .null⟩ := by
    rcases hwant with rfl | rfl <;> rfl
  apply (leads_quoted hkey).append
  apply Punctuation.colon.follows rfl
  exact h (.object back (units name) :: stack) .value .null (.inl rfl)

/-- Members behind others are put behind them. -/
theorem follows_moreMembers {members : List (String × Json)} {read : List (List TextUnit × Tree)}
    (h : List.Forall₂ MemberReadsAs members read) (back : List (List TextUnit × Tree))
    (stack : List Frame) :
    Follows ⟨.object back [] :: stack, .next, .null⟩ (moreMembers members)
      (Growth.deliver stack (.object (back.reverse ++ read))) := by
  induction h generalizing back with
  | nil =>
    rw [moreMembers, List.append_nil]
    exact Punctuation.closeObject.follows rfl (.nil _)
  | @cons member found members read hmember _ ih =>
    obtain ⟨name, value⟩ := member
    obtain ⟨key, t⟩ := found
    obtain ⟨rfl, hvalue⟩ := hmember
    have hrest := ih ((units name, t) :: back)
    rw [List.reverse_cons, List.append_assoc, List.singleton_append] at hrest
    rw [moreMembers]
    apply Punctuation.comma.follows rfl
    exact (leads_member hvalue (.inl rfl)).append hrest

/-- An object is read as its members are. -/
theorem readsAs_object {members : List (String × Json)} {read : List (List TextUnit × Tree)}
    (h : List.Forall₂ MemberReadsAs members read) :
    ReadsAs (Json.object members).chars (.object read) := by
  intro stack want found hwant
  have hopen : Growth.step ⟨stack, want, found⟩ .openObject =
      some ⟨.object [] [] :: stack, .keyOrClose, .null⟩ :=
    Growth.step_of_value hwant (by simp) (by simp)
  rw [chars]
  apply (Punctuation.openObject.follows hopen _).leads
  cases h with
  | nil =>
    rw [membersChars]
    exact (Punctuation.closeObject.follows rfl (.nil _)).leads
  | @cons member found members read hmember hrest =>
    obtain ⟨name, value⟩ := member
    obtain ⟨key, t⟩ := found
    obtain ⟨rfl, hvalue⟩ := hmember
    rw [membersChars]
    apply (leads_member hvalue (.inr rfl)).append
    exact follows_moreMembers hrest [(units name, t)] stack

/-! ## Documents -/

/-- A document that consists of one value has its tree. -/
theorem ofBytes?_of_readsAs {cs : List Char} {t : Tree} (h : ReadsAs cs t) :
    Tree.ofBytes? (encodeChars cs) = some t := by
  have hstart : At (.between, []) ⟨[], .value, .null⟩ := ⟨[], rfl, rfl⟩
  obtain ⟨⟨reading, found⟩, hrun, back, hfinished, hback⟩ :=
    h [] .value .null (.inl rfl) _ rfl hstart
  have hmarks : marks? (encodeChars cs) = some back.reverse := by
    rw [marks?, hrun]
    rcases finished_cases hfinished with ⟨rfl, rfl⟩ | ⟨word, mark, rfl, hmark, rfl⟩
    · rfl
    · simp [hmark]
  rw [Tree.ofBytes?, hmarks, Option.bind_some, Tree.ofMarks?, hback]
  rfl

end SqlRelay.Json
