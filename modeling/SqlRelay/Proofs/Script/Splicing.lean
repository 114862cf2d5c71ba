import SqlRelay.Proofs.Script.Reading
import SqlRelay.Script.Metadata
/-!
# Request values in SQL text

The skeleton of a text is what the scanner sees of it outside quoted literals.  A token that
stands in code becomes a literal of its own, so the values of two requests leave one skeleton.  A
token inside a literal or a comment is replaced in the same way, and there its quotes have another
meaning.

Main results:

- Definition `skeleton` forgets what the literals of a text hold.
- Theorem `Place.read_quotedSql`: a value that is written into code stays in its literal.
- Theorem `Place.read_leak`: anywhere else some value is seen outside literals.
- Theorem `splice_keeps_skeleton_iff`: two requests leave one skeleton exactly if all tokens stand
  in code.
- Theorem `tokensInCode_iff_of_accepted`: what this means for the statement as it is written.
-/

namespace SqlRelay

/-- What a skeleton shows: the beginning of a literal, or a character outside literals. -/
inductive Mark where
  | literal (quote : Char)
  | outside (region : Region) (c : Char)
  deriving DecidableEq, Repr

/-- A place of a text, with the quote that closed a literal right before it. -/
structure Place where
  region : Region
  closed : Option Char
  deriving DecidableEq, Repr

namespace Place

/-- Before the first character. -/
def start : Place := ⟨.code, none⟩

/-- The quote that closes a literal with a character. -/
def closing (p : Place) (c : Char) : Option Char :=
  if p.region = .literal c then some c else none

/-- The place after one more character. -/
def step (p : Place) (c : Char) : Place :=
  ⟨p.region.step c, p.closing c⟩

/-- What is seen of a character.  A quote that doubles the one before it goes on with the same
literal. -/
def marks (p : Place) (c : Char) : List Mark :=
  match p.region with
  | .literal _ => []
  | r =>
    if r.isCode && isQuote c then
      if p.closed = some c then [] else [.literal c]
    else [.outside r c]

/-- The place after a text. -/
def after (p : Place) (cs : List Char) : Place :=
  cs.foldl step p

/-- What is seen of a text. -/
def read (p : Place) (cs : List Char) : List Mark :=
  notes step marks p cs

@[simp]
theorem step_region (p : Place) (c : Char) : (p.step c).region = p.region.step c := rfl

@[simp]
theorem after_nil (p : Place) : p.after [] = p := rfl

@[simp]
theorem after_cons (p : Place) (c : Char) (cs : List Char) :
    p.after (c :: cs) = (p.step c).after cs := rfl

theorem after_append (p : Place) (a b : List Char) : p.after (a ++ b) = (p.after a).after b := by
  simp [after]

/-- Both ways of scanning reach the same region. -/
@[simp]
theorem after_region (p : Place) (cs : List Char) :
    (p.after cs).region = p.region.after cs := by
  induction cs generalizing p with
  | nil => rfl
  | cons c cs ih => simp [ih]

@[simp]
theorem read_nil (p : Place) : p.read [] = [] := rfl

theorem read_cons (p : Place) (c : Char) (cs : List Char) :
    p.read (c :: cs) = p.marks c ++ (p.step c).read cs := rfl

theorem read_append (p : Place) (a b : List Char) :
    p.read (a ++ b) = p.read a ++ (p.after a).read b :=
  notes_append step marks p a b

end Place

/-- What the scanner sees of a text outside quoted literals. -/
def skeleton (cs : List Char) : List Mark :=
  Place.start.read cs

/-! ## Escaped values -/

@[simp]
theorem doubleQuotes_nil : doubleQuotes [] = [] := rfl

theorem doubleQuotes_cons (c : Char) (cs : List Char) :
    doubleQuotes (c :: cs) = (if c = '\'' then ['\'', '\''] else [c]) ++ doubleQuotes cs := rfl

/-- A text that does not begin with a dash keeps its first character. -/
theorem dropDashPairs_cons_of_ne {c : Char} (h : c ≠ '-') (cs : List Char) :
    dropDashPairs (c :: cs) = c :: dropDashPairs cs := by
  cases cs <;> simp [dropDashPairs, h]

/-- Dashes may be dropped before the quotes are doubled: no two dashes meet across a quote. -/
theorem dropDashPairs_doubleQuotes (cs : List Char) :
    dropDashPairs (doubleQuotes cs) = doubleQuotes (dropDashPairs cs) := by
  fun_induction dropDashPairs cs with
  | case1 rest ih => simpa [doubleQuotes_cons, dropDashPairs] using ih
  | case2 c rest hpair ih =>
    rw [doubleQuotes_cons, doubleQuotes_cons, ← ih]
    by_cases hquote : c = '\''
    · subst hquote
      simp [dropDashPairs_cons_of_ne]
    · by_cases hdash : c = '-'
      · subst hdash
        -- what follows a single dash does not begin with one, before and after the doubling
        cases rest with
        | nil => rfl
        | cons d rest =>
          have hd : d ≠ '-' := by
            rintro rfl
            exact hpair rest rfl rfl
          by_cases hquote' : d = '\'' <;> simp [doubleQuotes_cons, hquote', dropDashPairs, hd]
      · simp [hquote, dropDashPairs_cons_of_ne hdash]
  | case3 => rfl

namespace Place

/-- The place inside a literal of single quotes. -/
def inside : Place := ⟨.literal '\'', none⟩

/-- The place right after a literal of single quotes. -/
def beyond : Place := ⟨.code, some '\''⟩

/-- Inside a literal of single quotes, a text with its quotes doubled is not seen. -/
theorem read_doubleQuotes (cs : List Char) :
    inside.read (doubleQuotes cs) = [] ∧ inside.after (doubleQuotes cs) = inside := by
  induction cs with
  | nil => simp
  | cons c cs ih =>
    obtain ⟨hread, hafter⟩ := ih
    have hpiece : inside.read (if c = '\'' then ['\'', '\''] else [c]) = [] ∧
        inside.after (if c = '\'' then ['\'', '\''] else [c]) = inside := by
      by_cases hquote : c = '\''
      · subst hquote
        decide
      · simp [hquote, inside, read_cons, marks, step, closing, Region.step, Ne.symm hquote]
    rw [doubleQuotes_cons, read_append, after_append, hpiece.1, hpiece.2]
    exact ⟨hread, hafter⟩

/-- A value that is written into code stays in its literal: only the opening quote may be seen. -/
theorem read_quotedSql {p : Place} (h : p.region.isCode = true) (value : String) :
    p.read (quotedSql value) = p.marks '\'' ∧ p.after (quotedSql value) = beyond := by
  have hopen : p.step '\'' = inside := by
    obtain ⟨region, closed⟩ := p
    cases region <;> simp_all [Region.isCode, step, closing, inside, Region.step, Region.enter,
      isQuote]
  have hclose : inside.read ['\''] = [] ∧ inside.after ['\''] = beyond := by
    decide
  have htext : quotedSql value =
      '\'' :: (doubleQuotes (dropDashPairs value.toList) ++ ['\'']) := by
    simp [quotedSql, escapeChars, dropDashPairs_doubleQuotes]
  obtain ⟨hread, hafter⟩ := read_doubleQuotes (dropDashPairs value.toList)
  rw [htext, read_cons, after_cons, hopen, read_append, after_append, hread, hafter, hclose.1,
    hclose.2]
  simp

end Place

/-- A value that ends the literal it is written into, if there is one, and goes on. -/
def leak (r : Region) (c : Char) : List Char :=
  match r with
  | .literal quote => if quote = '\'' then [c] else [quote, c]
  | _ => [c]

/-- Neither a quote nor a dash. -/
def isPlain (c : Char) : Bool :=
  !isQuote c && c != '-'

/-- Escaping changes nothing in a value that leaks a plain character. -/
theorem escapeChars_leak (r : Region) {c : Char} (h : isPlain c = true) :
    escapeChars (leak r c) = leak r c := by
  have hc : c ≠ '\'' ∧ c ≠ '-' := by
    simp [isPlain, isQuote] at h
    exact ⟨h.1.1.1, h.2⟩
  unfold leak
  split
  · split
    · simp [escapeChars, doubleQuotes_cons, hc, dropDashPairs]
    · rename_i quote hquote
      simp [escapeChars, doubleQuotes_cons, hc, hquote, dropDashPairs]
  · simp [escapeChars, doubleQuotes_cons, hc, dropDashPairs]

/-- Every character of a comment is seen. -/
theorem Place.marks_of_isComment {p : Place} (h : p.region.isComment = true) (c : Char) :
    p.marks c = [.outside p.region c] := by
  obtain ⟨region, closed⟩ := p
  cases region <;> simp_all [Region.isComment, marks, Region.isCode]

/-- A quote does not end a comment. -/
theorem Region.isComment_step_quote {r : Region} (h : r.isComment = true) :
    (r.step '\'').isComment = true := by
  cases r <;> simp_all [isComment, step]

/-- Outside of code and comments there are only literals. -/
theorem Region.eq_literal_of_not {r : Region} (hcode : r.isCode = false)
    (hcomment : ¬ r.isComment = true) : ∃ quote, r = .literal quote := by
  cases r <;> simp_all [isCode, isComment]

/-- Outside code, the last character of such a value is seen outside literals. -/
theorem Place.read_leak (p : Place) (h : p.region.isCode = false) :
    ∃ seen region, ∀ c, isPlain c = true → ∀ rest, ∃ more,
      p.read (quotedSql (String.ofList (leak p.region c)) ++ rest) =
        seen ++ .outside region c :: more := by
  by_cases hcomment : p.region.isComment = true
  · refine ⟨p.marks '\'', p.region.step '\'', ?_⟩
    intro c hc rest
    have hvalue : leak p.region c = [c] := by
      unfold leak
      split <;> simp_all [Region.isComment]
    have htext : quotedSql (String.ofList (leak p.region c)) = ['\'', c, '\''] := by
      rw [quotedSql, String.toList_ofList, escapeChars_leak _ hc, hvalue]
      rfl
    have hmarks : (p.step '\'').marks c = [.outside (p.region.step '\'') c] :=
      marks_of_isComment (Region.isComment_step_quote hcomment) c
    exact ⟨_, by rw [htext, List.cons_append, read_cons, List.cons_append, read_cons, hmarks]; rfl⟩
  · obtain ⟨quote, hquote⟩ := Region.eq_literal_of_not h hcomment
    obtain ⟨region, closed⟩ := p
    subst hquote
    refine ⟨[], .code, ?_⟩
    intro c hc rest
    have hplain : isQuote c = false := by
      simp only [isPlain, Bool.and_eq_true, Bool.not_eq_true'] at hc
      exact hc.1
    rw [quotedSql, String.toList_ofList, escapeChars_leak _ hc]
    -- a single quote ends the literal itself, any other quote comes with the value
    by_cases hsingle : quote = '\''
    · subst hsingle
      exact ⟨_, by simp [leak, read_cons, marks, step, Region.step, hplain]; rfl⟩
    · exact ⟨_, by
        simp [leak, hsingle, Ne.symm hsingle, read_cons, marks, step, Region.step, hplain]; rfl⟩

/-- Facts that give a key a value, whatever the key is. -/
def Metadata.giving (key value : String) : Metadata :=
  ⟨value, value, value, value, value,
    [(Text.lowered "user-agent", value), (Text.lowered key, value)]⟩

/-- Every key can be given every value. -/
theorem Metadata.lookup_giving (key value : String) :
    (Metadata.giving key value).lookup key = some value := by
  unfold lookup
  split <;> simp [giving, header?, Fields.get?_cons]

/-! ## Two requests -/

/-- Whether all tokens stand in code of a text that starts in a region, and the text is scanned to
its end.  A token leaves the scan in code. -/
def TokensInCode : Region → List MetadataPiece → Prop
  | r, [] => r.isComplete = true
  | r, .char c :: rest => TokensInCode (r.step c) rest
  | r, .token _ :: rest => r.isCode = true ∧ TokensInCode .code rest

/-- Two texts that are scanned to their ends and are the same outside quoted literals. -/
def Place.Alike (p : Place) (a b : List Char) : Prop :=
  (p.region.after a).isComplete = true ∧ (p.region.after b).isComplete = true ∧
    p.read a = p.read b

/-- A first character that two texts share does not matter for whether they look alike. -/
theorem Place.alike_cons_iff (p : Place) (c : Char) (a b : List Char) :
    p.Alike (c :: a) (c :: b) ↔ (p.step c).Alike a b := by
  simp [Alike, read_cons]

/-- In code, values may be put in front of two texts. -/
theorem Place.alike_quotedSql_iff {p : Place} (h : p.region.isCode = true) (v w : String)
    (a b : List Char) :
    p.Alike (quotedSql v ++ a) (quotedSql w ++ b) ↔ beyond.Alike a b := by
  have hafter : ∀ value, p.region.after (quotedSql value) = beyond.region := by
    intro value
    rw [← after_region, (read_quotedSql h value).2]
  simp [Alike, Region.after_append, hafter, read_append, read_quotedSql h]

/-- If all tokens stand in code, two requests leave one skeleton. -/
theorem TokensInCode.alike {pieces : List MetadataPiece} {p : Place}
    (h : TokensInCode p.region pieces) (m₁ m₂ : Metadata) :
    p.Alike (pieces.flatMap m₁.write) (pieces.flatMap m₂.write) := by
  induction pieces generalizing p with
  | nil => exact ⟨h, h, rfl⟩
  | cons piece rest ih =>
    cases piece with
    | char c =>
      rw [List.flatMap_cons, List.flatMap_cons]
      exact (p.alike_cons_iff c _ _).2 (ih h)
    | token key =>
      obtain ⟨hcode, hrest⟩ := h
      rw [List.flatMap_cons, List.flatMap_cons]
      exact (Place.alike_quotedSql_iff hcode _ _ _ _).2 (ih (p := Place.beyond) hrest)

/-- If any two requests leave one skeleton, all tokens stand in code: the first that does not
shows its value. -/
theorem tokensInCode_of_alike {pieces : List MetadataPiece} {p : Place}
    (h : ∀ m₁ m₂ : Metadata, p.Alike (pieces.flatMap m₁.write) (pieces.flatMap m₂.write)) :
    TokensInCode p.region pieces := by
  induction pieces generalizing p with
  | nil => exact (h default default).1
  | cons piece rest ih =>
    cases piece with
    | char c =>
      exact ih fun m₁ m₂ => (p.alike_cons_iff c _ _).1 (h m₁ m₂)
    | token key =>
      cases hcode : p.region.isCode with
      | true =>
        refine ⟨hcode, ih (p := Place.beyond) ?_⟩
        exact fun m₁ m₂ => (Place.alike_quotedSql_iff hcode _ _ _ _).1 (h m₁ m₂)
      | false =>
        obtain ⟨seen, region, hshows⟩ := p.read_leak hcode
        let m (c : Char) : Metadata :=
          .giving (String.ofList key) (String.ofList (leak p.region c))
        obtain ⟨more, ha⟩ := hshows 'a' (by decide) (rest.flatMap (m 'a').write)
        obtain ⟨more', hb⟩ := hshows 'b' (by decide) (rest.flatMap (m 'b').write)
        have hsame := (h (m 'a') (m 'b')).2.2
        simp only [List.flatMap_cons, Metadata.write, m, Metadata.lookup_giving,
          Option.getD_some] at hsame
        rw [ha, hb] at hsame
        simp at hsame

/-- The texts that any two requests leave of a statement are accepted and the same outside quoted
literals exactly if all tokens of the statement stand in code. -/
theorem splice_keeps_skeleton_iff (sql : String) :
    (∀ m₁ m₂ : Metadata,
      Accepted (m₁.splice sql).toList ∧ Accepted (m₂.splice sql).toList ∧
        skeleton (m₁.splice sql).toList = skeleton (m₂.splice sql).toList) ↔
      TokensInCode .code (MetadataPiece.readFrom 0 sql.toList) := by
  simp only [Metadata.splice, Metadata.spliceChars, String.toList_ofList, accepted_iff]
  constructor
  · intro h
    exact tokensInCode_of_alike (p := Place.start) h
  · intro h m₁ m₂
    exact TokensInCode.alike (p := Place.start) h m₁ m₂

/-- A token inside quotes of the statement shows the value: here the host is read as code. -/
theorem splice_shows_host :
    ¬ ∀ (sql : String) (m₁ m₂ : Metadata), Accepted sql.toList →
      Accepted (m₁.splice sql).toList ∧ Accepted (m₂.splice sql).toList ∧
        skeleton (m₁.splice sql).toList = skeleton (m₂.splice sql).toList := by
  intro h
  have hsame := (h "SELECT '!host!'" (.giving "host" "x") (.giving "host" "y")
    ((accepted_iff _).2 (by decide))).2.2
  revert hsame
  decide +kernel

/-! ## Tokens of the statement as it is written -/

/-- A character of a key opens no literal and no block comment. -/
theorem ne_of_isKeyChar {c : Char} (h : isKeyChar c = true) : isQuote c = false ∧ c ≠ '/' := by
  constructor
  · cases hquote : isQuote c with
    | false => rfl
    | true =>
      simp only [isQuote, Bool.or_eq_true, beq_iff_eq] at hquote
      rcases hquote with (rfl | rfl) | rfl <;> exact absurd h (by decide)
  · rintro rfl
    exact absurd h (by decide)

/-- A key opens nothing but a line comment. -/
theorem Region.step_enter {d c : Char} (hd : isKeyChar d = true ∨ d = '!')
    (hpair : ¬ (d = '-' ∧ c = '-')) : (enter d).step c = enter c := by
  have hplain : isQuote d = false ∧ d ≠ '/' := by
    rcases hd with hd | rfl
    · exact ne_of_isKeyChar hd
    · decide
  by_cases hdash : d = '-'
  · subst hdash
    have hc : c ≠ '-' := fun hc => hpair ⟨rfl, hc⟩
    simp [enter, isQuote, step, hc]
  · simp [enter, hplain, hdash, step]

/-- Behind the opening mark, a key and its closing mark lead back to code. -/
theorem Region.after_key {d : Char} {key : List Char} (hd : isKeyChar d = true ∨ d = '!')
    (hkey : ∀ c ∈ key, isKeyChar c = true) (hpair : ¬ ['-', '-'] <:+: d :: key) :
    (enter d).after (key ++ ['!']) = .code := by
  induction key generalizing d with
  | nil => exact step_enter hd (by simp)
  | cons c rest ih =>
    rw [List.infix_cons_iff, not_or] at hpair
    obtain ⟨hhead, htail⟩ := hpair
    have hdc : ¬ (d = '-' ∧ c = '-') := by
      rintro ⟨rfl, rfl⟩
      exact hhead ⟨rest, rfl⟩
    rw [List.cons_append, after_cons, step_enter hd hdc]
    exact ih (.inl (hkey c (by simp))) (fun x hx => hkey x (by simp [hx])) htail

/-- A token of code as it is written leaves the scan in code, unless two dashes of its key open a
comment. -/
theorem Region.after_token {r : Region} {key : List Char} (hr : r.isCode = true)
    (hkey : ∀ c ∈ key, isKeyChar c = true) (hpair : ¬ ['-', '-'] <:+: key) :
    r.after (MetadataPiece.token key).source = .code := by
  have hopen : r.step '!' = enter '!' := by
    cases r <;> simp_all [isCode, step, enter, isQuote]
  rw [MetadataPiece.source, List.cons_append, after_cons, hopen]
  refine after_key (.inr rfl) hkey ?_
  rw [List.infix_cons_iff, not_or]
  exact ⟨by simp [List.cons_prefix_cons], hpair⟩

/-- Whether the scanner reads code right before each token of a text as it is written. -/
def TokensReadInCode (r : Region) (pieces : List MetadataPiece) : Prop :=
  ∀ before piece rest, pieces = before ++ piece :: rest → ∀ key, piece = .token key →
    (r.after (before.flatMap MetadataPiece.source)).isCode = true

/-- The tokens of a text are read in code if the first piece is, and the rest behind it. -/
theorem tokensReadInCode_cons (r : Region) (piece : MetadataPiece) (rest : List MetadataPiece) :
    TokensReadInCode r (piece :: rest) ↔
      (∀ key, piece = .token key → r.isCode = true) ∧
        TokensReadInCode (r.after piece.source) rest := by
  unfold TokensReadInCode
  rw [forall_split_cons]
  simp [Region.after_append]

/-- Tokens whose keys hold no two dashes in a row stand in code exactly if the scanner reads code
right before each of them. -/
theorem tokensInCode_iff_read {pieces : List MetadataPiece} {r : Region}
    (hkeys : ∀ key, .token key ∈ pieces →
      (∀ c ∈ key, isKeyChar c = true) ∧ ¬ ['-', '-'] <:+: key)
    (hend : (r.after (pieces.flatMap MetadataPiece.source)).isComplete = true) :
    TokensInCode r pieces ↔ TokensReadInCode r pieces := by
  induction pieces generalizing r with
  | nil => simpa [TokensInCode, TokensReadInCode] using hend
  | cons piece rest ih =>
    have hkeysRest : ∀ key, .token key ∈ rest →
        (∀ c ∈ key, isKeyChar c = true) ∧ ¬ ['-', '-'] <:+: key :=
      fun key hkey => hkeys key (by simp [hkey])
    rw [List.flatMap_cons, Region.after_append] at hend
    rw [tokensReadInCode_cons]
    cases piece with
    | char c => simpa [TokensInCode, MetadataPiece.source] using ih hkeysRest hend
    | token key =>
      obtain ⟨hkey, hpair⟩ := hkeys key (by simp)
      constructor
      · rintro ⟨hcode, hrest⟩
        rw [Region.after_token hcode hkey hpair] at hend ⊢
        exact ⟨fun _ _ => hcode, (ih hkeysRest hend).1 hrest⟩
      · rintro ⟨hhead, hrest⟩
        have hcode := hhead key rfl
        rw [Region.after_token hcode hkey hpair] at hend hrest
        exact ⟨hcode, (ih hkeysRest hend).2 hrest⟩

/-- The tokens of a text have keys. -/
theorem MetadataPiece.isKeyChar_of_mem_readFrom {skip : Nat} {cs key : List Char}
    (h : .token key ∈ readFrom skip cs) : ∀ c ∈ key, isKeyChar c = true := by
  fun_induction readFrom skip cs with
  | case1 => simp at h
  | case2 skip c cs ih => exact ih h
  | case3 cs found hfound ih =>
    rcases List.mem_cons.1 h with hkey | hrest
    · obtain ⟨-, -, -, hchars⟩ := tokenKey?_eq_some hfound
      exact MetadataPiece.token.inj hkey ▸ hchars
    · exact ih hrest
  | case4 cs _ ih => exact ih (by simpa using h)
  | case5 c cs _ ih => exact ih (by simpa using h)

/-- The tokens of an accepted statement whose keys hold no two dashes in a row stand in code
exactly if the scanner reads code right before each of them. -/
theorem tokensInCode_iff_of_accepted {sql : List Char} (h : Accepted sql)
    (hpairs : ∀ key, .token key ∈ MetadataPiece.readFrom 0 sql → ¬ ['-', '-'] <:+: key) :
    TokensInCode .code (MetadataPiece.readFrom 0 sql) ↔
      TokensReadInCode .code (MetadataPiece.readFrom 0 sql) := by
  refine tokensInCode_iff_read (fun key hkey => ⟨?_, hpairs key hkey⟩) ?_
  · exact MetadataPiece.isKeyChar_of_mem_readFrom hkey
  · rw [metadataSource_readFrom, List.drop_zero]
    exact (accepted_iff sql).1 h

end SqlRelay
