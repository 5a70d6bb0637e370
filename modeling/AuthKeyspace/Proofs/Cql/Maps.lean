import AuthKeyspace.Proofs.Text.Delimited
import Mathlib.Data.List.Nodup
import Mathlib.Data.String.Basic
import Mathlib.Tactic.Common

/-!
# Maps are written in one way and read back

A map is given as its entries in some order, no key twice. It is written in the
same way for every order (`mapOrdered_of_perm`): the key `class` first, if it is
there, and the others as their code points are ordered (`KeysInOrder`). From the
text the entries are read back, in the order in which they are written
(`readMap?_mapLiteral`), so two maps that are written alike have the same entries.

The reader knows nothing of what is in the literals. It looks for the quote that
is not doubled, and what is behind it has to be a colon, a comma or the closing
brace. A key may therefore hold all of these, quotes included.
-/

namespace AuthKeyspace.Cql

open AuthKeyspace.Text

/-! ## Reading a map -/

/-- Read what is left of a literal behind its first quote: its characters, and
what is behind the quote that ends it. A pair of quotes is a quote inside. -/
def readLiteralBody? : List Char → Option (List Char × List Char)
  | [] => none
  | '\'' :: '\'' :: rest => (readLiteralBody? rest).map fun (cs, r) => ('\'' :: cs, r)
  | '\'' :: rest => some ([], rest)
  | c :: rest => (readLiteralBody? rest).map fun (cs, r) => (c :: cs, r)

/-- Read a literal: its text, and what is behind it. -/
def readLiteral? : List Char → Option (String × List Char)
  | '\'' :: rest => (readLiteralBody? rest).map fun (cs, r) => (String.ofList cs, r)
  | _ => none

/-- Read a key, a colon and a value. -/
def readPair? (cs : List Char) : Option ((String × String) × List Char) :=
  match readLiteral? cs with
  | some (key, ':' :: ' ' :: rest) =>
    (readLiteral? rest).map fun (value, rest) => ((key, value), rest)
  | _ => none

/-- Read at most `bound` further entries, each after a comma. -/
def readFurtherEntries? : Nat → List Char → Option (List (String × String) × List Char)
  | bound + 1, ',' :: ' ' :: rest =>
    (readPair? rest).bind fun (entry, rest) =>
      (readFurtherEntries? bound rest).map fun (entries, rest) => (entry :: entries, rest)
  | _, cs => some ([], cs)

/-- Read a map that takes the whole text: its entries in the order in which they
are written. -/
def readMap? : List Char → Option (List (String × String))
  | ['\x7b', '\x7d'] => some []
  | '\x7b' :: rest =>
    (readPair? rest).bind fun (entry, rest) =>
      match readFurtherEntries? rest.length rest with
      | some (entries, ['\x7d']) => some (entry :: entries)
      | _ => none
  | _ => none

/-! ## What is written is read -/

/-- The quote that ends a literal is the first that is not doubled. -/
theorem readLiteralBody?_double (cs : List Char) {r : List Char} (h : Apart (· == '\'') r) :
    readLiteralBody? (double '\'' cs ++ '\'' :: r) = some (cs, r) := by
  induction cs with
  | nil =>
    cases r with
    | nil => rfl
    | cons d ds =>
      have hd : d ≠ '\'' := beq_eq_false_iff_ne.1 (h d rfl)
      simp [double, readLiteralBody?, hd]
  | cons c cs ih =>
    by_cases hc : c = '\''
    · subst hc
      simp [double, readLiteralBody?, ih]
    · simp [double, readLiteralBody?, hc, ih]

/-- A literal is read with anything behind it but a quote. -/
theorem readLiteral?_literal (v : String) {r : List Char} (h : Apart (· == '\'') r) :
    readLiteral? ((literal v).toList ++ r) = some (v, r) := by
  have hread := readLiteralBody?_double v.toList h
  simp [toList_literal, readLiteral?, hread]

theorem readPair?_mapEntry (e : String × String) {r : List Char} (h : Apart (· == '\'') r) :
    readPair? ((mapEntry e).toList ++ r) = some (e, r) := by
  have hcolon : Apart (· == '\'') ([':', ' '] ++ ((literal e.2).toList ++ r)) := apart_cons _
  have hkey := readLiteral?_literal e.1 hcolon
  have hvalue := readLiteral?_literal e.2 h
  have hentry : (mapEntry e).toList ++ r =
      (literal e.1).toList ++ ([':', ' '] ++ ((literal e.2).toList ++ r)) := by
    simp [mapEntry]
  rw [hentry, readPair?, hkey]
  simp [hvalue]

/-- Entries with the separator before each. -/
def furtherEntriesText (entries : List (String × String)) : List Char :=
  entries.flatMap fun e => ',' :: ' ' :: (mapEntry e).toList

/-- What follows an entry is a comma or the closing brace. -/
theorem apart_furtherEntriesText (entries : List (String × String)) (r : List Char) :
    Apart (· == '\'') (furtherEntriesText entries ++ '\x7d' :: r) := by
  cases entries with
  | nil => exact apart_cons _
  | cons e entries => exact apart_cons _

theorem readFurtherEntries?_text {entries : List (String × String)} {bound : Nat}
    (hbound : entries.length ≤ bound) (r : List Char) :
    readFurtherEntries? bound (furtherEntriesText entries ++ '\x7d' :: r) =
      some (entries, '\x7d' :: r) := by
  induction entries generalizing bound with
  | nil => cases bound <;> rfl
  | cons e entries ih =>
    cases bound with
    | zero => simp at hbound
    | succ bound =>
      have hentry := readPair?_mapEntry e (apart_furtherEntriesText entries r)
      have hmore := ih (Nat.le_of_succ_le_succ hbound)
      show readFurtherEntries? (bound + 1)
        (',' :: ' ' :: ((mapEntry e).toList ++ furtherEntriesText entries) ++ '\x7d' :: r) = _
      simp [readFurtherEntries?, hentry, hmore]

/-- Entries as they are written in the given order. -/
def mapText (ordered : List (String × String)) : String :=
  "\x7b" ++ ", ".intercalate (ordered.map mapEntry) ++ "\x7d"

theorem toList_mapText_cons (e : String × String) (entries : List (String × String)) :
    (mapText (e :: entries)).toList =
      '\x7b' :: ((mapEntry e).toList ++ (furtherEntriesText entries ++ ['\x7d'])) := by
  have hopen : "\x7b".toList = ['\x7b'] := rfl
  have hcomma : ", ".toList = [',', ' '] := rfl
  have hclose : "\x7d".toList = ['\x7d'] := rfl
  simp only [mapText, String.toList_append, String.toList_intercalate, List.map_cons,
    intercalate_cons_eq_flatMap, List.flatMap_map, List.map_map, List.append_assoc, hopen, hcomma,
    hclose, furtherEntriesText, List.cons_append, List.nil_append, Function.comp_apply]

theorem length_le_furtherEntriesText (entries : List (String × String)) :
    entries.length ≤ (furtherEntriesText entries).length := by
  induction entries with
  | nil => simp
  | cons e entries ih =>
    simp only [furtherEntriesText, List.flatMap_cons, List.length_append, List.length_cons] at ih ⊢
    omega

/-- Whatever the entries and their order, they are read back from the text. -/
theorem readMap?_mapText (ordered : List (String × String)) :
    readMap? (mapText ordered).toList = some ordered := by
  cases ordered with
  | nil => rfl
  | cons e entries =>
    have hbound : entries.length ≤ (furtherEntriesText entries ++ ['\x7d']).length := by
      have hlength := length_le_furtherEntriesText entries
      rw [List.length_append]
      omega
    have hentry := readPair?_mapEntry e (apart_furtherEntriesText entries [])
    have hmore := readFurtherEntries?_text hbound []
    -- behind the brace stands the quote of the first key, so the map is not empty
    obtain ⟨more, hkey⟩ : ∃ more, (mapEntry e).toList ++ (furtherEntriesText entries ++ ['\x7d']) =
        '\'' :: more := ⟨_, by simp [mapEntry, toList_literal]; rfl⟩
    rw [toList_mapText_cons, hkey, readMap?, ← hkey, hentry]
    · simp only [Option.bind_some, hmore]
    · simp

/-! ## The order of the entries -/

/-- The entries of a map in the order in which they are written. -/
def mapOrdered (entries : List (String × String)) : List (String × String) :=
  entries.mergeSort fun a b => mapOrder a.1 b.1

theorem mapOrdered_perm (entries : List (String × String)) : (mapOrdered entries).Perm entries :=
  List.mergeSort_perm _ _

theorem mapLiteral_eq (entries : List (String × String)) :
    mapLiteral entries = mapText (mapOrdered entries) := rfl

theorem mapOrder_antisymm {a b : String} (hab : mapOrder a b = true) (hba : mapOrder b a = true) :
    a = b := by
  simp only [mapOrder, Bool.or_eq_true, Bool.and_eq_true, beq_iff_eq, bne_iff_ne,
    decide_eq_true_eq] at hab hba
  rcases hab with ha | ⟨hb, hle⟩
  · rcases hba with hb | ⟨hne, -⟩
    · rw [ha, hb]
    · exact absurd ha hne
  · rcases hba with hb' | ⟨-, hge⟩
    · exact absurd hb' hb
    · exact String.le_antisymm hle hge

theorem mapOrdered_pairwise (entries : List (String × String)) :
    (mapOrdered entries).Pairwise fun a b => mapOrder a.1 b.1 = true :=
  List.pairwise_mergeSort (fun a b c => mapOrder_trans a.1 b.1 c.1)
    (fun a b => mapOrder_total a.1 b.1) entries

/-- The order of the entries is fixed by the keys, if no key comes twice. -/
theorem mapOrdered_of_perm {entries entries' : List (String × String)}
    (hkeys : (entries.map (·.1)).Nodup) (h : entries'.Perm entries) :
    mapOrdered entries' = mapOrdered entries := by
  have hordered : (mapOrdered entries').Perm (mapOrdered entries) :=
    (mapOrdered_perm entries').trans (h.trans (mapOrdered_perm entries).symm)
  refine List.Perm.eq_of_pairwise ?_ (mapOrdered_pairwise _) (mapOrdered_pairwise _) hordered
  intro a b ha hb hab hba
  have ha' : a ∈ entries := h.subset ((mapOrdered_perm entries').subset ha)
  have hb' : b ∈ entries := (mapOrdered_perm entries).subset hb
  exact List.inj_on_of_nodup_map hkeys ha' hb' (mapOrder_antisymm hab hba)

/-- The keys come once each, `class` first if it is there and the others as their
code points are ordered. -/
inductive KeysInOrder : List String → Prop
  | others {keys : List String} (hclass : "class" ∉ keys) (h : keys.Pairwise (· < ·)) :
      KeysInOrder keys
  | class_first {others : List String} (hclass : "class" ∉ others)
      (h : others.Pairwise (· < ·)) : KeysInOrder ("class" :: others)

theorem pairwise_lt_of_mapOrder {keys : List String} (hclass : "class" ∉ keys)
    (hnodup : keys.Nodup) (h : keys.Pairwise fun a b => mapOrder a b = true) :
    keys.Pairwise (· < ·) := by
  refine (h.and hnodup).imp_of_mem fun {a b} ha _ hab => ?_
  obtain ⟨horder, hne⟩ := hab
  have hnot : a ≠ "class" := fun heq => hclass (heq ▸ ha)
  have hle : b ≠ "class" ∧ a ≤ b := by simpa [mapOrder, hnot] using horder
  exact lt_of_le_of_ne hle.2 hne

theorem keysInOrder_of_mapOrder {keys : List String} (hnodup : keys.Nodup)
    (h : keys.Pairwise fun a b => mapOrder a b = true) : KeysInOrder keys := by
  cases keys with
  | nil => exact .others List.not_mem_nil .nil
  | cons k keys =>
    obtain ⟨hfresh, hnodup'⟩ := List.nodup_cons.1 hnodup
    obtain ⟨hfirst, hmore⟩ := List.pairwise_cons.1 h
    by_cases hk : k = "class"
    · subst hk
      exact .class_first hfresh (pairwise_lt_of_mapOrder hfresh hnodup' hmore)
    · -- the class would come before any other key
      have hclass : "class" ∉ k :: keys := by
        intro hmem
        rcases List.mem_cons.1 hmem with heq | hmem
        · exact hk heq.symm
        · simpa [mapOrder, hk] using hfirst _ hmem
      exact .others hclass (pairwise_lt_of_mapOrder hclass hnodup h)

theorem keysInOrder_mapOrdered {entries : List (String × String)}
    (hkeys : (entries.map (·.1)).Nodup) : KeysInOrder ((mapOrdered entries).map (·.1)) :=
  keysInOrder_of_mapOrder (((mapOrdered_perm entries).map _).nodup_iff.2 hkeys)
    (List.pairwise_map.2 (mapOrdered_pairwise entries))

/-! ## Maps -/

/-- A map is written in one way, whatever the order in which its entries come:
each key once, `class` first and the others in their order. A reader gets the
entries back, so maps that are written alike have the same entries; and it gets
each literal back with anything behind it but a quote. -/
theorem mapLiteral_exact {entries : List (String × String)} (hkeys : (entries.map (·.1)).Nodup) :
    (∀ entries', entries'.Perm entries → mapLiteral entries' = mapLiteral entries) ∧
      (∃ ordered : List (String × String), ordered.Perm entries ∧
        KeysInOrder (ordered.map (·.1)) ∧
          mapLiteral entries = "\x7b" ++ ", ".intercalate (ordered.map mapEntry) ++ "\x7d" ∧
            readMap? (mapLiteral entries).toList = some ordered) ∧
        (∀ entries', mapLiteral entries' = mapLiteral entries → entries'.Perm entries) ∧
          ∀ (v : String) (r : List Char), (∀ c ∈ r.head?, c ≠ '\'') →
            readLiteral? ((literal v).toList ++ r) = some (v, r) := by
  refine ⟨?_, ?_, ?_, ?_⟩
  · intro entries' h
    rw [mapLiteral_eq, mapLiteral_eq, mapOrdered_of_perm hkeys h]
  · exact ⟨mapOrdered entries, mapOrdered_perm entries, keysInOrder_mapOrdered hkeys, rfl,
      readMap?_mapText _⟩
  · intro entries' heq
    have hordered : mapOrdered entries' = mapOrdered entries := by
      refine Option.some.inj ?_
      rw [← readMap?_mapText, ← readMap?_mapText, ← mapLiteral_eq, ← mapLiteral_eq, heq]
    refine (mapOrdered_perm entries').symm.trans ?_
    rw [hordered]
    exact mapOrdered_perm entries
  · intro v r hr
    exact readLiteral?_literal v fun c hc => beq_eq_false_iff_ne.2 (hr c hc)

/-- Keys and values that hold quotes, commas and colons make no difference, and
neither does the place of `class`. -/
theorem mapLiteral_exact_quotes :
    mapLiteral [("class", "\x7d"), ("z': '", ""), ("", "', '")] =
        mapLiteral [("z': '", ""), ("", "', '"), ("class", "\x7d")] ∧
      (∃ ordered, ordered.Perm [("z': '", ""), ("", "', '"), ("class", "\x7d")] ∧
        KeysInOrder (ordered.map (·.1)) ∧
          readMap? (mapLiteral [("z': '", ""), ("", "', '"), ("class", "\x7d")]).toList =
            some ordered) ∧
        readLiteral? "'it''s': 'no'".toList = some ("it's", ": 'no'".toList) := by
  have hkeys : ([("z': '", ""), ("", "', '"), ("class", "\x7d")].map
      fun e : String × String => e.1).Nodup := by decide
  obtain ⟨hcanonical, ⟨ordered, hperm, hkeysInOrder, -, hread⟩, -, hliteral⟩ :=
    mapLiteral_exact hkeys
  have hcolon : ∀ c ∈ ": 'no'".toList.head?, c ≠ '\'' := by
    intro c hc
    obtain rfl : ':' = c := Option.some.inj hc
    decide
  exact ⟨hcanonical _ (by decide), ⟨ordered, hperm, hkeysInOrder, hread⟩,
    hliteral "it's" ": 'no'".toList hcolon⟩

end AuthKeyspace.Cql
