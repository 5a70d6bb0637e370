import AuthKeyspace.Proofs.Cql.Located
import AuthKeyspace.Proofs.Cql.RoundTrip

/-!
# Where errors point

A text that is cut into tokens and declares no table is refused with an error
that may have a place. The place is that of a token or the end of the text, and
which it is depends on what the error says (`PointsAt`): it is the end exactly if
the message says that nothing more was found; a token that a message quotes
stands at the place; a type that cannot be formed is reported at its word; and a
name that occurs twice is reported where it occurs for the second time.

What a statement is refused for once it has been read is seen in the statement
as a whole, except for a name that occurs twice, so an error has no place exactly
if the statement was read and no such name is what is wrong with it
(`ofText_position_exact`).

The readers' part is `Proofs/Cql/Located`. What is added here are the checks of a
statement (`ofStatement_error_cases`), the places of tokens in the text and the
ends of messages.
-/

namespace AuthKeyspace.Cql

/-! ## Names that occur twice -/

/-- The names of the columns that definitions declare. -/
def columnNames (ds : List Definition) : List String :=
  (ds.filterMap Definition.column?).map (·.name)

/-- The entry that is found is the first whose name occurred before. -/
theorem exists_of_firstRepeated? {α : Type} {seen : List String} {entries : List (String × α)}
    {e : String × α} (h : firstRepeated? seen entries = some e) :
    ∃ before after, entries = before ++ e :: after ∧ firstRepeated? seen before = none ∧
      (e.1 ∈ seen ∨ e.1 ∈ before.map (·.1)) := by
  induction entries generalizing seen with
  | nil => cases h
  | cons entry entries ih =>
    obtain ⟨name, a⟩ := entry
    rw [firstRepeated?] at h
    split at h
    · next hseen =>
      cases h
      exact ⟨[], entries, rfl, rfl, .inl (by simpa using hseen)⟩
    · next hseen =>
      obtain ⟨before, after, rfl, hbefore, hname⟩ := ih h
      refine ⟨(name, a) :: before, after, rfl, ?_, ?_⟩
      · rw [firstRepeated?, if_neg hseen, hbefore]
      · rw [List.mem_cons] at hname
        rw [List.map_cons, List.mem_cons]
        tauto

/-- The column `c`, whose name stands at `p`, is the first of the statement whose
name repeats one of the columns `earlier`. -/
structure RepeatsAt (s : Statement) (earlier : List Definition) (c : Column) (p : Nat)
    (isKey : Bool) : Prop where
  definitions_eq : ∃ later, s.definitions = earlier ++ .column c p isKey :: later
  nodup : (columnNames earlier).Nodup
  repeats : c.name ∈ columnNames earlier

theorem exists_repeatsAt {s : Statement} {n : String} {p : Nat}
    (h : firstRepeated? [] (s.definitions.filterMap Definition.namePosition?) = some (n, p)) :
    ∃ earlier c isKey, RepeatsAt s earlier c p isKey ∧ c.name = n := by
  obtain ⟨before, after, hentries, hbefore, hname⟩ := exists_of_firstRepeated? h
  -- the entries before come from the definitions before, of which keys leave none
  obtain ⟨ds, more, hds, rfl, hmore⟩ := List.filterMap_eq_append_iff.1 hentries
  obtain ⟨keys, d, later, rfl, hkeys, hd, -⟩ := List.filterMap_eq_cons_iff.1 hmore
  have hentriesBefore : (ds ++ keys).filterMap Definition.namePosition? =
      ds.filterMap Definition.namePosition? := by
    rw [List.filterMap_append, List.filterMap_eq_nil_iff.2 hkeys, List.append_nil]
  have hnames : (ds.filterMap Definition.namePosition?).map (·.1) = columnNames (ds ++ keys) := by
    rw [← hentriesBefore, map_fst_namePosition?, columnNames]
  cases d with
  | key => cases hd
  | column c position isKey =>
    cases hd
    rw [hnames] at hname
    have hnodup := (firstRepeated?_eq_none_iff.1 hbefore).1
    rw [hnames] at hnodup
    exact ⟨ds ++ keys, c, isKey,
      ⟨⟨later, by rw [hds, List.append_assoc]⟩, hnodup, by simpa using hname⟩, rfl⟩

/-! ## The checks of a statement -/

/-- Why a statement that names no keyspace declares no table: the name of a column
occurs twice, or something else that is seen at no place. -/
theorem ofStatement_unqualified_error_cases {keyspace table : String} {guarded : Bool}
    {ds : List Definition} {e : ParseError}
    (h : Structure.ofStatement keyspace ⟨none, table, guarded, ds⟩ = .error e) :
    (∃ n p, firstRepeated? [] (ds.filterMap Definition.namePosition?) = some (n, p) ∧
        e = ⟨.content (.duplicateColumn n), some p, none⟩) ∨
      firstRepeated? [] (ds.filterMap Definition.namePosition?) = none ∧
        ∃ fault, e = ⟨.content fault, none, none⟩ := by
  unfold Structure.ofStatement at h
  dsimp only at h
  split at h
  · next n p hrepeated =>
    cases h
    exact .inl ⟨n, p, hrepeated, rfl⟩
  · next hfresh =>
    refine .inr ⟨Option.eq_none_iff_forall_ne_some.2 fun e he => hfresh e.1 e.2 he, ?_⟩
    split at h
    · cases h
      exact ⟨_, rfl⟩
    · split at h
      · next fault _ =>
        cases h
        exact ⟨fault, rfl⟩
      · cases h

/-- Why a statement declares no table: it belongs to another keyspace, or it is
refused for what it would be without naming one. -/
theorem ofStatement_error_cases {keyspace : String} {s : Statement} {e : ParseError}
    (h : Structure.ofStatement keyspace s = .error e) :
    (∃ declared ∈ s.keyspace?, declared ≠ keyspace ∧
        e = ⟨.content (.foreignKeyspace declared keyspace), none, some s.table⟩) ∨
      (∀ declared ∈ s.keyspace?, declared = keyspace) ∧
        ((∃ n p,
            firstRepeated? [] (s.definitions.filterMap Definition.namePosition?) = some (n, p) ∧
              e = ⟨.content (.duplicateColumn n), some p, none⟩) ∨
          (s.columns.map (·.name)).Nodup ∧ ∃ fault, e = ⟨.content fault, none, none⟩) := by
  rw [← firstRepeated?_namePosition?_eq_none_iff]
  obtain ⟨keyspace?, table, guarded, definitions⟩ := s
  cases keyspace? with
  | none =>
    refine .inr ⟨fun declared hdeclared => ?_, ofStatement_unqualified_error_cases h⟩
    cases hdeclared
  | some declared =>
    by_cases hown : declared = keyspace
    · rw [hown, ofStatement_own] at h
      refine .inr ⟨fun d hd => ?_, ofStatement_unqualified_error_cases h⟩
      rw [← Option.some.inj hd, hown]
    · rw [ofStatement_foreign hown] at h
      cases h
      exact .inl ⟨declared, rfl, hown, rfl⟩

/-- The error of a statement has no place exactly if the statement belongs to
another keyspace or names no column twice. -/
theorem position?_eq_none_iff_of_ofStatement {keyspace : String} {s : Statement} {e : ParseError}
    (h : Structure.ofStatement keyspace s = .error e) :
    e.position? = none ↔
      (∃ declared ∈ s.keyspace?, declared ≠ keyspace) ∨ (s.columns.map (·.name)).Nodup := by
  rcases ofStatement_error_cases h with ⟨declared, hdeclared, hne, rfl⟩ |
    ⟨hown, ⟨n, p, hrepeated, rfl⟩ | ⟨hnodup, fault, rfl⟩⟩
  · exact iff_of_true rfl (.inl ⟨declared, hdeclared, hne⟩)
  · refine iff_of_false (Option.some_ne_none p) ?_
    rintro (⟨declared, hdeclared, hne⟩ | hnodup)
    · exact hne (hown declared hdeclared)
    · rw [firstRepeated?_namePosition?_eq_none_iff.2 hnodup] at hrepeated
      cases hrepeated
  · exact iff_of_true rfl (.inr hnodup)

/-! ## The ends of messages -/

/-- The message ends by saying that nothing more was found. -/
def ReportsEnd (message : String) : Prop := ", found end of input".toList <:+ message.toList

theorem not_reportsEnd_of_last {message : String} {cs : List Char} {c : Char}
    (h : message.toList = cs ++ [c]) (hc : c ≠ 't') : ¬ ReportsEnd message := by
  intro hreports
  obtain ⟨before, hbefore⟩ := hreports
  have hlast := congrArg List.getLast? (hbefore.trans h)
  rw [List.getLast?_append, List.getLast?_concat] at hlast
  exact hc (Option.some.inj hlast).symm

theorem toList_quoted (text : String) :
    ∃ cs q, (Text.quoted text).toList = cs ++ [q] ∧ (q = '\'' ∨ q = '"') :=
  ⟨_, _, String.toList_ofList, Text.quote_mem _⟩

/-- A message that ends with a text in quotes does not say so. -/
theorem not_reportsEnd_quoted (what text : String) : ¬ ReportsEnd (what ++ Text.quoted text) := by
  obtain ⟨cs, q, hquoted, hq⟩ := toList_quoted text
  have hlist : (what ++ Text.quoted text).toList = (what.toList ++ cs) ++ [q] := by
    rw [String.toList_append, hquoted, List.append_assoc]
  refine not_reportsEnd_of_last hlist ?_
  rcases hq with rfl | rfl <;> decide

/-- A message that ends with a number does not say so. -/
theorem not_reportsEnd_nat (what : String) (n : Nat) : ¬ ReportsEnd (what ++ toString n) := by
  obtain ⟨cs, c, hn⟩ : ∃ cs c, (toString n).toList = cs ++ [c] := by
    rcases List.eq_nil_or_concat (toString n).toList with hnil | ⟨cs, c, hconcat⟩
    · exact absurd (Nat.toList_repr.symm.trans hnil) Nat.toDigits_ne_nil
    · exact ⟨cs, c, by simpa using hconcat⟩
  have hmem : c ∈ (toString n).toList := by
    rw [hn]
    exact List.mem_append_right _ List.mem_cons_self
  have hdigit : c.isDigit = true := Text.isDigit_of_mem_repr hmem
  have hlist : (what ++ toString n).toList = (what.toList ++ cs) ++ [c] := by
    rw [String.toList_append, hn, List.append_assoc]
  refine not_reportsEnd_of_last hlist ?_
  rintro rfl
  exact absurd hdigit (by decide)

/-- What a message ends with and what it would have to end with are the ends of one
list, so one of the two ends with the other. -/
theorem not_reportsEnd_append (what : String) {word : String}
    (hshort : ¬ word.toList <:+ ", found end of input".toList)
    (hlong : ¬ ReportsEnd word) : ¬ ReportsEnd (what ++ word) := by
  intro hreports
  have hword : word.toList <:+ (what ++ word).toList := ⟨what.toList, String.toList_append.symm⟩
  exact (List.suffix_or_suffix_of_suffix hword hreports).elim hshort hlong

theorem not_reportsEnd_typeFault (fault : TypeFault) : ¬ ReportsEnd fault.message := by
  cases fault with
  | arity c given => exact not_reportsEnd_nat _ given
  | frozenScalar s =>
    refine not_reportsEnd_append _ ?_ ?_
    · cases s <;> decide
    · unfold ReportsEnd
      cases s <;> decide
  | nestedCollection c =>
    refine not_reportsEnd_append _ ?_ ?_
    · decide
    · unfold ReportsEnd
      decide

/-- A fault that tells what was found does so at the end of its message. -/
theorem exists_message {fault : GrammarFault} (h : fault.tellsFound = true)
    (token? : Option Token) : ∃ what, GrammarError.message ⟨fault, token?⟩ =
      what ++ (", found " ++ describeToken token?) := by
  cases fault with
  | expected | optionsNotSupported | takesNoParameters => exact ⟨_, rfl⟩
  | unknownType | unfitType => cases h

/-! ## Places -/

/-- A token begins before the end of the text. -/
theorem position_lt_length {cs : List Char} {tokens : List Token} (h : tokenize cs = .ok tokens) :
    ∀ t ∈ tokens, t.position < cs.length := by
  intro t ht
  obtain ⟨before, after, rfl, hposition, hwhole⟩ := (scan_eq_ok_iff.1 h).exists_split t ht
  have hpos : 0 < t.text.length := List.length_pos_iff.2 hwhole.text_ne_nil
  simp only [List.length_append]
  omega

theorem text_isPrefix {cs : List Char} {tokens : List Token} (h : tokenize cs = .ok tokens) :
    ∀ t ∈ tokens, t.text <+: cs.drop t.position := by
  intro t ht
  exact (standsIn_of_scan h t ht).2

/-- What an error says at the place `p` of the text `cs`, which is cut into
`tokens`. -/
inductive PointsAt (cs : List Char) (tokens : List Token) : ParseFault → Nat → Prop
  | atEnd {fault : GrammarFault} {what : String}
      (hmessage : GrammarError.message ⟨fault, none⟩ = what ++ ", found end of input") :
      PointsAt cs tokens (.grammar ⟨fault, none⟩) cs.length
  | found {fault : GrammarFault} {t : Token} {what : String} (ht : t ∈ tokens)
      (hstands : t.text <+: cs.drop t.position)
      (hmessage : GrammarError.message ⟨fault, some t⟩ =
        what ++ (", found " ++ Text.quoted (String.ofList t.text))) :
      PointsAt cs tokens (.grammar ⟨fault, some t⟩) t.position
  | unknownType {t : Token} {w : List Char} (ht : t ∈ tokens)
      (hstands : t.text <+: cs.drop t.position) (hword : t.lexeme = .word w)
      (hscalar : ∀ s, ¬ ScalarForm t.lexeme s) (hconstructor : ∀ c, ¬ ConstructorForm t.lexeme c)
      (hmessage : GrammarError.message ⟨.unknownType, some t⟩ =
        "Unknown type " ++ Text.quoted (String.ofList t.text)) :
      PointsAt cs tokens (.grammar ⟨.unknownType, some t⟩) t.position
  | unfitType {w : Token} {rest : List Token} {fault : TypeFault} (hrest : w :: rest <:+ tokens)
      (hfault : Misfit (w :: rest) fault) :
      PointsAt cs tokens (.grammar ⟨.unfitType fault, some w⟩) w.position
  | duplicate {s : Statement} {earlier : List Definition} {c : Column} {isKey : Bool} {t : Token}
      {ts : List Token} (hs : Statement.ofTokens tokens = .ok s)
      (hrepeats : RepeatsAt s earlier c t.position isKey) (hts : t :: ts <:+: tokens)
      (hform : DefinitionForm (t :: ts) (.column c t.position isKey)) :
      PointsAt cs tokens (.content (.duplicateColumn c.name)) t.position

theorem pointsAt_of_seenIn {cs : List Char} {tokens : List Token} {e : GrammarError}
    (htokens : tokenize cs = .ok tokens) (h : SeenIn tokens e) :
    PointsAt cs tokens (.grammar e) ((e.token?.map (·.position)).getD cs.length) := by
  cases h with
  | @next fault token? hfault htoken =>
    obtain ⟨what, hmessage⟩ := exists_message hfault token?
    cases token? with
    | none => exact .atEnd hmessage
    | some t => exact .found (htoken t rfl) (text_isPrefix htokens t (htoken t rfl)) hmessage
  | unknownType ht hword hscalar hconstructor =>
    exact .unknownType ht (text_isPrefix htokens _ ht) hword hscalar hconstructor rfl
  | unfitType hrest hfault => exact .unfitType hrest hfault

/-- A column whose name repeats an earlier one is reported at its name. -/
theorem pointsAt_of_repeatsAt {cs : List Char} {tokens : List Token} {s : Statement}
    {earlier : List Definition} {c : Column} {p : Nat} {isKey : Bool}
    (hs : Statement.ofTokens tokens = .ok s) (h : RepeatsAt s earlier c p isKey) :
    PointsAt cs tokens (.content (.duplicateColumn c.name)) p := by
  obtain ⟨later, hdefinitions⟩ := h.definitions_eq
  have hmem : .column c p isKey ∈ s.definitions := by
    rw [hdefinitions]
    exact List.mem_append_right _ List.mem_cons_self
  cases ofTokens_eq_ok_iff.1 hs with
  | @mk create table o close gs qs ds es _ _ _ _ _ _ _ _ _ _ hds =>
    obtain ⟨us, hus, hform⟩ := definitionForm_of_mem hds _ hmem
    have hinfix : us <:+: create :: table :: (gs ++ (qs ++ (o :: (ds ++ (close :: es))))) := by
      refine hus.trans ⟨create :: table :: (gs ++ (qs ++ [o])), close :: es, ?_⟩
      simp
    cases hform with
    | column hn hty => exact .duplicate hs h hinfix (.column hn hty)
    | keyColumn hn hty hp hk => exact .duplicate hs h hinfix (.keyColumn hn hty hp hk)

section

variable {cs : List Char} {tokens : List Token} {fault : ParseFault} {p : Nat}

/-- The place is that of the end or that of a token. -/
theorem PointsAt.eq_length_or_position (h : PointsAt cs tokens fault p) :
    p = cs.length ∨ ∃ t ∈ tokens, t.position = p := by
  cases h with
  | atEnd => exact .inl rfl
  | found ht | unknownType ht => exact .inr ⟨_, ht, rfl⟩
  | unfitType hrest => exact .inr ⟨_, hrest.subset List.mem_cons_self, rfl⟩
  | duplicate _ _ hts => exact .inr ⟨_, hts.subset List.mem_cons_self, rfl⟩

theorem PointsAt.exists_item (htokens : tokenize cs = .ok tokens)
    (h : PointsAt cs tokens fault p) :
    ∃ found, items cs = .ok found ∧ ∃ item ∈ found, item.position = p := by
  refine ⟨_, map_eq_ok_iff.2 ⟨tokens, htokens, rfl⟩, ?_⟩
  rcases h.eq_length_or_position with rfl | ⟨t, ht, rfl⟩
  · exact ⟨.textEnd cs.length, List.mem_append_right _ List.mem_cons_self, rfl⟩
  · exact ⟨.token t, List.mem_append_left _ (List.mem_map_of_mem ht), rfl⟩

theorem PointsAt.le_length (htokens : tokenize cs = .ok tokens)
    (h : PointsAt cs tokens fault p) : p ≤ cs.length := by
  rcases h.eq_length_or_position with rfl | ⟨t, ht, rfl⟩
  · exact Nat.le_refl _
  · exact Nat.le_of_lt (position_lt_length htokens t ht)

/-- The place is the end of the text exactly if the message says so. -/
theorem PointsAt.eq_length_iff (htokens : tokenize cs = .ok tokens)
    (h : PointsAt cs tokens fault p) : p = cs.length ↔ ReportsEnd fault.message := by
  have before_end {t : Token} {message : String} (ht : t ∈ tokens) (hnot : ¬ ReportsEnd message) :
      t.position = cs.length ↔ ReportsEnd message :=
    iff_of_false (Nat.ne_of_lt (position_lt_length htokens t ht)) hnot
  cases h with
  | @atEnd fault what hmessage =>
    refine iff_of_true rfl ?_
    show ReportsEnd (GrammarError.message ⟨fault, none⟩)
    rw [hmessage]
    exact ⟨what.toList, String.toList_append.symm⟩
  | @found fault t what ht _ hmessage =>
    refine before_end ht ?_
    show ¬ ReportsEnd (GrammarError.message ⟨fault, some t⟩)
    rw [hmessage, ← String.append_assoc]
    exact not_reportsEnd_quoted _ _
  | unknownType ht => exact before_end ht (not_reportsEnd_quoted _ _)
  | unfitType hrest =>
    exact before_end (hrest.subset List.mem_cons_self) (not_reportsEnd_typeFault _)
  | duplicate _ _ hts =>
    exact before_end (hts.subset List.mem_cons_self) (not_reportsEnd_quoted _ _)

end

/-! ## Texts -/

/-- The two ways in which a text that is cut into tokens declares no table. -/
theorem ofText_error_cases {keyspace text : String} {tokens : List Token} {e : ParseError}
    (hblank : Text.allBlank text.toList = false) (htokens : tokenize text.toList = .ok tokens)
    (h : Structure.ofText keyspace text = .error e) :
    (∃ g, Statement.ofTokens tokens = .error g ∧
        e = ⟨.grammar g, some ((g.token?.map (·.position)).getD text.toList.length), none⟩) ∨
      ∃ s, Statement.ofTokens tokens = .ok s ∧ Structure.ofStatement keyspace s = .error e := by
  rw [ofText_of_tokenize hblank htokens] at h
  split at h
  · next g hg =>
    cases h
    exact .inl ⟨g, hg, rfl⟩
  · next s hs => exact .inr ⟨s, hs, h⟩

theorem pointsAt_of_ofText {keyspace text : String} {tokens : List Token} {e : ParseError}
    (hblank : Text.allBlank text.toList = false) (htokens : tokenize text.toList = .ok tokens)
    (h : Structure.ofText keyspace text = .error e) :
    ∀ p ∈ e.position?, PointsAt text.toList tokens e.fault p := by
  intro p hp
  rcases ofText_error_cases hblank htokens h with ⟨g, hg, rfl⟩ | ⟨s, hs, hread⟩
  · obtain rfl := Option.some.inj hp
    exact pointsAt_of_seenIn htokens (seenIn_of_ofTokens hg)
  · -- of the checks, only that of names that occur twice tells a place
    rcases ofStatement_error_cases hread with ⟨declared, -, -, rfl⟩ |
      ⟨-, ⟨n, q, hrepeated, rfl⟩ | ⟨-, fault, rfl⟩⟩
    · cases hp
    · obtain rfl := Option.some.inj hp
      obtain ⟨earlier, c, isKey, hrepeats, rfl⟩ := exists_repeatsAt hrepeated
      exact pointsAt_of_repeatsAt hs hrepeats
    · cases hp

/-- Where the error of a text that is cut into tokens points. It has no place
exactly if the statement was read and either belongs to another keyspace or names
no column twice. A place that it has is that of a token or the end of the text; it
is the end exactly if the message says that nothing more was found, and what stands
there is what the message is about. -/
theorem ofText_position_exact {keyspace text : String} {tokens : List Token} {e : ParseError}
    (hblank : Text.allBlank text.toList = false) (htokens : tokenize text.toList = .ok tokens)
    (h : Structure.ofText keyspace text = .error e) :
    (e.position? = none ↔ ∃ s, Statement.ofTokens tokens = .ok s ∧
        ((∃ declared ∈ s.keyspace?, declared ≠ keyspace) ∨ (s.columns.map (·.name)).Nodup)) ∧
      ∀ p ∈ e.position?,
        (∃ found, items text.toList = .ok found ∧ ∃ item ∈ found, item.position = p) ∧
          (p = text.toList.length ↔ ReportsEnd e.fault.message) ∧
            PointsAt text.toList tokens e.fault p := by
  constructor
  · rcases ofText_error_cases hblank htokens h with ⟨g, hg, rfl⟩ | ⟨s, hs, hread⟩
    · simp [hg]
    · simpa [hs] using position?_eq_none_iff_of_ofStatement hread
  · intro p hp
    have hpoints := pointsAt_of_ofText hblank htokens h p hp
    exact ⟨hpoints.exists_item htokens, hpoints.eq_length_iff htokens, hpoints⟩

/-- A name that repeats one in another case is pointed at, and a bracket that is
missing is missed at the end of the text. -/
theorem ofText_position_exact_repeated :
    (∃ tokens e, Structure.ofText "ks" "create table t(a int, A text)" = .error e ∧
        e.position? = some 22 ∧ ¬ ReportsEnd e.fault.message ∧
          PointsAt "create table t(a int, A text)".toList tokens e.fault 22) ∧
      ∃ e, Structure.ofText "ks" "create table t(a map<int, text" = .error e ∧
        e.position? = some 30 ∧ ReportsEnd e.fault.message := by
  have hrepeated : Structure.ofText "ks" "create table t(a int, A text)" =
      .error ⟨.content (.duplicateColumn "a"), some 22, none⟩ := rfl
  have hopen : Structure.ofText "ks" "create table t(a map<int, text" =
      .error ⟨.grammar ⟨.expected (.symbol .closeAngle), none⟩, some 30, none⟩ := rfl
  obtain ⟨-, hplaces⟩ := ofText_position_exact (by decide) rfl hrepeated
  obtain ⟨-, hend, hpoints⟩ := hplaces 22 rfl
  obtain ⟨-, hplaces'⟩ := ofText_position_exact (by decide) rfl hopen
  obtain ⟨-, hend', -⟩ := hplaces' 30 rfl
  exact ⟨⟨_, _, hrepeated, rfl, mt hend.2 (by decide), hpoints⟩, _, hopen, rfl, hend'.1 (by decide)⟩

end AuthKeyspace.Cql
