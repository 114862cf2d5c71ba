import Mathlib.Data.List.Basic
import Mathlib.Data.List.TakeWhile
import SqlRelay.Http.ObjectPath
/-!
# Paths and what they address

A path is taken apart into the database, the object and the key that it was put together from,
however many slashes stand in front of it and behind it.  The key may hold slashes and begin with
some; the database and the object hold none.

Main results:

- Theorems `dropSlashes_eq_iff`, `splitSlash_eq_iff` and `keyOf?_eq_some_iff`: what each step of
  taking a path apart leaves.
- Definition `Addresses` says which paths address what, without taking them apart.
- Theorem `ofText_eq_iff`: a path is taken apart into what it addresses.
- Theorem `paths_read_back`: taking apart undoes putting together, and every path can be put
  together again from what it was taken apart into.
-/

namespace SqlRelay.ObjectPath

/-- Ids that a path can hold, and a key that it can have. -/
structure WellFormed (p : ObjectPath) : Prop where
  named : p.database ≠ ""
  database : '/' ∉ p.database.toList
  object : '/' ∉ p.object.toList
  key : ∀ key ∈ p.key, key ≠ "" ∧ key.toList.getLast? ≠ some '/'

/-- A number of slashes. -/
def slashes (n : Nat) : String :=
  String.ofList (List.replicate n '/')

@[simp]
theorem toList_slashes (n : Nat) : (slashes n).toList = List.replicate n '/' := by
  simp [slashes]

/-- A key and the slash in front of it. -/
def keyChars (key : Option String) : List Char :=
  key.elim [] ('/' :: ·.toList)

/-- A path without the slashes at its ends. -/
def body (p : ObjectPath) : String :=
  p.database ++ "/" ++ p.object ++ String.ofList (keyChars p.key)

@[simp]
theorem toList_body (p : ObjectPath) :
    p.body.toList = p.database.toList ++ '/' :: (p.object.toList ++ keyChars p.key) := by
  simp [body]

/-- The path that names an object begins with one slash and ends with none. -/
theorem text_eq (p : ObjectPath) : p.text = slashes 1 ++ p.body ++ slashes 0 := by
  obtain ⟨database, object, key⟩ := p
  apply String.toList_inj.1
  cases key <;> simp [text, keyChars]

/-- What a path addresses.  Slashes at its ends do not count; a path may end behind the database,
and it may hold nothing but slashes. -/
inductive Addresses : String → ObjectPath → Prop
  | object {p : ObjectPath} (wellFormed : p.WellFormed) (front behind : Nat) :
      Addresses (slashes front ++ p.body ++ slashes behind) p
  | database {id : String} (named : id ≠ "") (unslashed : '/' ∉ id.toList) (front : Nat) :
      Addresses (slashes front ++ id) ⟨id, "", none⟩
  | nothing (front : Nat) : Addresses (slashes front) ⟨"", "", none⟩

/-! ## Slashes at the ends -/

/-- A text loses the slashes in front of it, and no more. -/
theorem dropSlashes_eq_iff {cs rest : List Char} :
    dropSlashes cs = rest ↔ rest.head? ≠ some '/' ∧ ∃ n, cs = List.replicate n '/' ++ rest := by
  constructor
  · rintro rfl
    constructor
    · intro hhead
      have hfirst := List.head?_dropWhile_not (· == '/') cs
      rw [← dropSlashes, hhead] at hfirst
      simp at hfirst
    · have hslashes : cs.takeWhile (· == '/') = List.replicate _ '/' :=
        List.eq_replicate_of_mem fun c hc => by simpa using List.mem_takeWhile_imp hc
      refine ⟨(cs.takeWhile (· == '/')).length, ?_⟩
      rw [← hslashes, dropSlashes, List.takeWhile_append_dropWhile]
  · rintro ⟨hhead, n, rfl⟩
    have hslashes : ∀ c ∈ List.replicate n '/', (c == '/') = true := by
      intro c hc
      rw [List.eq_of_mem_replicate hc, beq_self_eq_true]
    rw [dropSlashes, List.dropWhile_append_of_pos hslashes]
    cases rest with
    | nil => rfl
    | cons c rest =>
      have hc : (c == '/') = false := by simpa using hhead
      rw [List.dropWhile_cons, hc]
      rfl

/-- A text loses the slashes behind it, and no more. -/
theorem dropSlashesEnd_eq_iff {cs rest : List Char} :
    dropSlashesEnd cs = rest ↔
      rest.getLast? ≠ some '/' ∧ ∃ n, cs = rest ++ List.replicate n '/' := by
  have hreverse (n : Nat) :
      cs.reverse = List.replicate n '/' ++ rest.reverse ↔ cs = rest ++ List.replicate n '/' := by
    rw [← List.reverse_inj, List.reverse_reverse, List.reverse_append, List.reverse_reverse,
      List.reverse_replicate]
  rw [dropSlashesEnd, List.reverse_eq_iff, dropSlashes_eq_iff, List.head?_reverse]
  simp only [hreverse]

/-- There is no key where only slashes stand. -/
theorem keyOf?_eq_none_iff {cs : List Char} :
    keyOf? cs = none ↔ ∃ n, cs = List.replicate n '/' := by
  have hempty : keyOf? cs = none ↔ dropSlashesEnd cs = [] := by
    simp [keyOf?]
  rw [hempty, dropSlashesEnd_eq_iff]
  simp

/-- A key is read without the slashes behind it. -/
theorem keyOf?_eq_some_iff {cs : List Char} {key : String} :
    keyOf? cs = some key ↔
      key ≠ "" ∧ key.toList.getLast? ≠ some '/' ∧
        ∃ n, cs = key.toList ++ List.replicate n '/' := by
  have hkept : keyOf? cs = some key ↔ key ≠ "" ∧ dropSlashesEnd cs = key.toList := by
    by_cases hempty : dropSlashesEnd cs = []
    · have hnone : keyOf? cs = none := by simp [keyOf?, hempty]
      rw [hnone, hempty]
      refine iff_of_false (by simp) ?_
      rintro ⟨hsome, hnil⟩
      exact hsome (by simpa using hnil.symm)
    · have hkey : keyOf? cs = some (String.ofList (dropSlashesEnd cs)) := by
        simp [keyOf?, hempty]
      rw [hkey, Option.some.injEq, ← String.toList_inj, String.toList_ofList]
      refine ⟨fun hsame => ⟨?_, hsame⟩, And.right⟩
      rintro rfl
      exact hempty hsame
  rw [hkept, dropSlashesEnd_eq_iff]

/-- A text is split at its first slash. -/
theorem splitSlash_eq_iff {cs front : List Char} {rest : Option (List Char)} :
    splitSlash cs = (front, rest) ↔ '/' ∉ front ∧ cs = front ++ rest.elim [] ('/' :: ·) := by
  have hplain (c : Char) : isPlain c = true ↔ c ≠ '/' := by simp [isPlain]
  constructor
  · intro h
    have hfront : '/' ∉ cs.takeWhile isPlain := fun hmem =>
      (hplain '/').1 (List.mem_takeWhile_imp hmem) rfl
    have hsplit := List.takeWhile_append_dropWhile (p := isPlain) (l := cs)
    unfold splitSlash at h
    split at h
    next hend =>
      obtain ⟨rfl, rfl⟩ := Prod.mk.inj h
      rw [hend, List.append_nil] at hsplit
      rw [hsplit] at hfront
      exact ⟨hfront, by simp⟩
    next c more hmore =>
      obtain ⟨rfl, rfl⟩ := Prod.mk.inj h
      have hc : c = '/' := by
        have hfirst := List.head?_dropWhile_not isPlain cs
        rw [hmore] at hfirst
        simpa [isPlain] using hfirst
      rw [hmore, hc] at hsplit
      exact ⟨hfront, hsplit.symm⟩
  · rintro ⟨hfront, rfl⟩
    have hall : ∀ c ∈ front, isPlain c = true := fun c hc =>
      (hplain c).2 (ne_of_mem_of_not_mem hc hfront)
    have hslash : isPlain '/' = false := by decide
    cases rest with
    | none => simp [splitSlash, List.dropWhile_eq_nil_iff.2 hall]
    | some rest =>
      simp [splitSlash, List.takeWhile_append_of_pos hall, List.dropWhile_append_of_pos hall,
        hslash]

/-- Behind the database, a path goes on with an object, then perhaps with a key, then with any
number of slashes. -/
theorem splitKey_eq_iff {cs object : List Char} {key : Option String} :
    (∃ rest, splitSlash cs = (object, rest) ∧ rest.bind keyOf? = key) ↔
      '/' ∉ object ∧ (∀ k ∈ key, k ≠ "" ∧ k.toList.getLast? ≠ some '/') ∧
        ∃ behind, cs = object ++ keyChars key ++ List.replicate behind '/' := by
  constructor
  · rintro ⟨rest, hsplit, hkey⟩
    obtain ⟨hobject, rfl⟩ := splitSlash_eq_iff.1 hsplit
    refine ⟨hobject, ?_⟩
    cases rest with
    | none =>
      subst hkey
      exact ⟨by simp, 0, by simp [keyChars]⟩
    | some rest =>
      rw [Option.bind_some] at hkey
      cases key with
      | none =>
        obtain ⟨n, rfl⟩ := keyOf?_eq_none_iff.1 hkey
        exact ⟨by simp, n + 1, by simp [keyChars, List.replicate_succ]⟩
      | some key =>
        obtain ⟨hsome, hlast, n, rfl⟩ := keyOf?_eq_some_iff.1 hkey
        exact ⟨by simp [hsome, hlast], n, by simp [keyChars]⟩
  · rintro ⟨hobject, hkey, behind, rfl⟩
    cases key with
    | some key =>
      obtain ⟨hsome, hlast⟩ := hkey key rfl
      exact ⟨some _, splitSlash_eq_iff.2 ⟨hobject, by simp [keyChars]⟩,
        keyOf?_eq_some_iff.2 ⟨hsome, hlast, behind, rfl⟩⟩
    | none =>
      cases behind with
      | zero => exact ⟨none, splitSlash_eq_iff.2 ⟨hobject, by simp [keyChars]⟩, rfl⟩
      | succ n =>
        -- the first slash ends the object, the others are what is left of a key
        exact ⟨some _, splitSlash_eq_iff.2 ⟨hobject, by simp [keyChars, List.replicate_succ]⟩,
          keyOf?_eq_none_iff.2 ⟨n, rfl⟩⟩

/-! ## All paths -/

/-- What is read from the parts of a path. -/
theorem ofText_of_split {path : String} {database object : List Char}
    {rest behind : Option (List Char)}
    (hdatabase : splitSlash (dropSlashes path.toList) = (database, rest))
    (hobject : splitSlash (rest.getD []) = (object, behind)) :
    ofText path = ⟨String.ofList database, String.ofList object, behind.bind keyOf?⟩ := by
  simp only [ofText, hdatabase, hobject]

/-- Slashes in front of a database are dropped. -/
theorem dropSlashes_append {id : String} (named : id ≠ "") (unslashed : '/' ∉ id.toList)
    (front : Nat) (rest : List Char) :
    dropSlashes (List.replicate front '/' ++ (id.toList ++ rest)) = id.toList ++ rest := by
  refine dropSlashes_eq_iff.2 ⟨?_, front, rfl⟩
  rw [List.head?_append_of_ne_nil _ (by simpa using named)]
  intro hfirst
  exact unslashed (List.mem_of_mem_head? hfirst)

/-- A path is taken apart into what it addresses. -/
theorem Addresses.ofText_eq {path : String} {p : ObjectPath} (h : Addresses path p) :
    ofText path = p := by
  cases h with
  | object wellFormed front behind =>
    obtain ⟨rest, hobject, hkey⟩ :=
      splitKey_eq_iff.2 ⟨wellFormed.object, wellFormed.key, behind, rfl⟩
    have hdatabase : splitSlash (dropSlashes (slashes front ++ p.body ++ slashes behind).toList) =
        (p.database.toList,
          some (p.object.toList ++ keyChars p.key ++ List.replicate behind '/')) := by
      have hdropped := dropSlashes_append wellFormed.named wellFormed.database front
      simp only [String.toList_append, toList_slashes, toList_body, List.append_assoc, hdropped]
      exact splitSlash_eq_iff.2 ⟨wellFormed.database, by simp⟩
    rw [ofText_of_split hdatabase hobject, hkey, String.ofList_toList, String.ofList_toList]
  | @database id named unslashed front =>
    have hdatabase : splitSlash (dropSlashes (slashes front ++ id).toList) = (id.toList, none) := by
      have hdropped := dropSlashes_append named unslashed front []
      simp only [List.append_nil] at hdropped
      rw [String.toList_append, toList_slashes, hdropped]
      exact splitSlash_eq_iff.2 ⟨unslashed, by simp⟩
    rw [ofText_of_split hdatabase rfl, String.ofList_toList]
    rfl
  | nothing front =>
    have hdropped : dropSlashes (slashes front).toList = [] :=
      dropSlashes_eq_iff.2 ⟨by simp, front, by simp⟩
    have hdatabase : splitSlash (dropSlashes (slashes front).toList) = ([], none) :=
      congrArg splitSlash hdropped
    rw [ofText_of_split hdatabase rfl]
    rfl

/-- A path addresses what it is taken apart into. -/
theorem addresses_ofText (path : String) : Addresses path (ofText path) := by
  obtain ⟨hhead, front, hpath⟩ := dropSlashes_eq_iff.1 (Eq.refl (dropSlashes path.toList))
  rcases hdatabase : splitSlash (dropSlashes path.toList) with ⟨database, rest⟩
  rcases hobject : splitSlash (rest.getD []) with ⟨object, behind⟩
  rw [ofText_of_split hdatabase hobject]
  obtain ⟨hplain, hbody⟩ := splitSlash_eq_iff.1 hdatabase
  rw [hbody] at hhead hpath
  cases rest with
  | none =>
    obtain ⟨rfl, rfl⟩ := Prod.mk.inj (hobject.symm.trans (rfl : splitSlash [] = ([], none)))
    by_cases hnone : database = []
    · have hslashes : path = slashes front := String.toList_inj.1 (by simp [hpath, hnone])
      rw [hslashes, hnone]
      exact .nothing front
    · have hid : path = slashes front ++ String.ofList database :=
        String.toList_inj.1 (by simp [hpath])
      rw [hid]
      exact .database (by simpa using hnone) (by simpa using hplain) front
  | some rest =>
    obtain ⟨hunslashed, hkey, more, rfl⟩ := splitKey_eq_iff.1 ⟨behind, hobject, rfl⟩
    -- without a name, the path would begin with one more slash
    have hnamed : database ≠ [] := by
      rintro rfl
      exact hhead rfl
    have hwhole : path = slashes front ++
        body ⟨String.ofList database, String.ofList object, behind.bind keyOf?⟩ ++ slashes more :=
      String.toList_inj.1 (by simp [hpath])
    rw [hwhole]
    exact .object ⟨by simpa using hnamed, by simpa using hplain, by simpa using hunslashed, hkey⟩
      front more

/-- A path is taken apart into what it addresses, and into nothing else. -/
theorem ofText_eq_iff {path : String} {p : ObjectPath} : ofText path = p ↔ Addresses path p := by
  constructor
  · rintro rfl
    exact addresses_ofText path
  · exact Addresses.ofText_eq

/-- The text of an object path addresses it, if it can be addressed at all. -/
theorem WellFormed.addresses_text {p : ObjectPath} (h : p.WellFormed) : Addresses p.text p := by
  rw [text_eq]
  exact .object h 1 0

/-- What some path addresses is addressed by its own text as well. -/
theorem Addresses.addresses_text {path : String} {p : ObjectPath} (h : Addresses path p) :
    Addresses p.text p := by
  cases h with
  | object wellFormed front behind => exact wellFormed.addresses_text
  | database named unslashed front =>
    exact WellFormed.addresses_text ⟨named, unslashed, by simp, by simp⟩
  | nothing front =>
    -- one slash in front, and one between the empty ids
    exact .nothing 2

/-- The text of an object path is taken apart into it. -/
theorem ofText_text {p : ObjectPath} (h : p.WellFormed) : ofText p.text = p :=
  ofText_eq_iff.2 h.addresses_text

/-- What a path is put together from, with any number of slashes at either end, is what it is taken
apart into.  A path that is put together again from what another one was taken apart into is taken
apart alike, also where no database is named. -/
theorem paths_read_back :
    (∀ p : ObjectPath, p.WellFormed → ∀ front behind,
      ofText (slashes front ++ p.body ++ slashes behind) = p) ∧
    ∀ path, ofText (ofText path).text = ofText path := by
  constructor
  · intro p wellFormed front behind
    exact ofText_eq_iff.2 (.object wellFormed front behind)
  · intro path
    have haddressed : Addresses path (ofText path) := ofText_eq_iff.1 rfl
    exact ofText_eq_iff.2 haddressed.addresses_text

/-- An empty object, and a key that begins with a slash and holds more of them. -/
theorem slashedKey_reads_back :
    WellFormed ⟨"db", "", some "/a//b"⟩ ∧
      ofText "//db///a//b///" = ⟨"db", "", some "/a//b"⟩ := by
  have wellFormed : WellFormed ⟨"db", "", some "/a//b"⟩ :=
    ⟨by decide, by decide, by decide, by simp⟩
  have hpath : slashes 2 ++ body ⟨"db", "", some "/a//b"⟩ ++ slashes 3 = "//db///a//b///" := by
    decide
  refine ⟨wellFormed, ?_⟩
  rw [← hpath]
  exact paths_read_back.1 _ wellFormed 2 3

end SqlRelay.ObjectPath
