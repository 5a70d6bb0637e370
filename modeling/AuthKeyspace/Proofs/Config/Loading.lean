import AuthKeyspace.Proofs.Config.Entries
import AuthKeyspace.Yaml.Document

/-!
# What loading gives, and what it does not live with

A node goes on without a node config that cannot be read, is malformed or is no
mapping, and without an entry that is no number to be used: each is replaced
with one warning. Loading is meant to be like that for every fault, and is not.
What ends it is a `Broken` node config or an `EntryEscape`: a path that cannot
be one, bytes that are no characters, a part of the document that is no value of
its kind, an entry of no use with a number too long for the warning, and a delay
that is a number but longer than a duration can be.

`load_exact` says that nothing else ends it, and what it gives otherwise. The
settings have to have a delay that is a duration; all else is arbitrary, the
path, the files, what is in them and what reads their documents.
-/

namespace AuthKeyspace.Config

open AuthKeyspace.Log AuthKeyspace.Time AuthKeyspace.Files

/-! ## The file at a path -/

/-- The file at a path that can be one is read, and `document` is what reading
its document gives. -/
def HasDocument (source : Source) (path : String)
    (document : Except Yaml.Fault Yaml.Document) : Prop :=
  '\x00' ∉ (Path.ofText path).text.toList ∧ ∃ bytes, source.files (Path.ofText path) = .ok bytes ∧
    source.document (Text.portionsOf bytes) = document

/-- A node config that a node goes on without: it cannot be read, it is
malformed, or it is no mapping. -/
inductive Useless (source : Source) (path : String) : Prop
  | unreadable {fault : ReadFault} (hpath : '\x00' ∉ (Path.ofText path).text.toList)
    (h : source.files (Path.ofText path) = .error fault) : Useless source path
  | malformed (h : HasDocument source path (.error .malformed)) : Useless source path
  | notAMapping {kind : String} (h : HasDocument source path (.ok (.other kind))) :
    Useless source path

/-- A node config that stops a node: its path cannot be one, or a part of its
document is not what it claims to be. -/
inductive Broken (source : Source) (path : String) : Breakdown → Prop
  | nulInPath (h : '\x00' ∈ (Path.ofText path).text.toList) : Broken source path .nulInPath
  | content {fault : Yaml.Fault} (h : HasDocument source path (.error fault))
    (hfault : fault ≠ .malformed) : Broken source path (.content fault)

/-- The mapping in a node config; one without a document is empty. -/
inductive Finds (source : Source) (path : String) : Yaml.Entries → Prop
  | nothing (h : HasDocument source path (.ok .nothing)) : Finds source path []
  | mapping {conf : Yaml.Entries} (h : HasDocument source path (.ok (.mapping conf))) :
    Finds source path conf

variable {source : Source} {path : String} {s : Settings} {d : Duration} {conf : Yaml.Entries}

theorem read_of_nul (h : '\x00' ∈ (Path.ofText path).text.toList) :
    NodeConfig.read source path = .error (.breakdown .nulInPath) := by
  have hcontains : (Path.ofText path).text.toList.contains '\x00' = true :=
    List.contains_iff_mem.2 h
  simp only [NodeConfig.read, hcontains, if_true]

theorem read_of_unreadable {fault : ReadFault} (hpath : '\x00' ∉ (Path.ofText path).text.toList)
    (h : source.files (Path.ofText path) = .error fault) :
    NodeConfig.read source path = .error (.defect (.unreadable (Path.ofText path) fault)) := by
  have hcontains : (Path.ofText path).text.toList.contains '\x00' = false := by simpa using hpath
  simp only [NodeConfig.read, hcontains, h]
  rfl

theorem read_of_hasDocument {document : Except Yaml.Fault Yaml.Document}
    (h : HasDocument source path document) :
    ∃ bytes, source.document (Text.portionsOf bytes) = document ∧ NodeConfig.read source path =
      NodeConfig.ofBytes source.document (Path.ofText path) bytes := by
  obtain ⟨hpath, bytes, hbytes, hdocument⟩ := h
  have hcontains : (Path.ofText path).text.toList.contains '\x00' = false := by simpa using hpath
  refine ⟨bytes, hdocument, ?_⟩
  simp only [NodeConfig.read, hcontains, hbytes]
  rfl

/-- Whatever is at a path, it is of no use, or stops a node, or is a mapping. -/
theorem useless_or_broken_or_finds (source : Source) (path : String) :
    Useless source path ∨ (∃ b, Broken source path b) ∨ ∃ conf, Finds source path conf := by
  by_cases hpath : '\x00' ∈ (Path.ofText path).text.toList
  · exact .inr (.inl ⟨_, .nulInPath hpath⟩)
  cases hfile : source.files (Path.ofText path) with
  | error fault => exact .inl (.unreadable hpath hfile)
  | ok bytes =>
    have hdocument : HasDocument source path (source.document (Text.portionsOf bytes)) :=
      ⟨hpath, bytes, hfile, rfl⟩
    cases h : source.document (Text.portionsOf bytes) with
    | error fault =>
      rw [h] at hdocument
      by_cases hfault : fault = .malformed
      · rw [hfault] at hdocument
        exact .inl (.malformed hdocument)
      · exact .inr (.inl ⟨_, .content hdocument hfault⟩)
    | ok document =>
      rw [h] at hdocument
      cases document with
      | nothing => exact .inr (.inr ⟨_, .nothing hdocument⟩)
      | mapping entries => exact .inr (.inr ⟨_, .mapping hdocument⟩)
      | other kind => exact .inl (.notAMapping hdocument)

theorem read_of_useless (h : Useless source path) :
    ∃ defect, NodeConfig.read source path = .error (.defect defect) := by
  cases h with
  | unreadable hpath h => exact ⟨_, read_of_unreadable hpath h⟩
  | malformed h =>
    obtain ⟨bytes, hdocument, hread⟩ := read_of_hasDocument h
    exact ⟨.malformed (Path.ofText path), by rw [hread, NodeConfig.ofBytes, hdocument]⟩
  | @notAMapping kind h =>
    obtain ⟨bytes, hdocument, hread⟩ := read_of_hasDocument h
    exact ⟨.notAMapping (Path.ofText path) kind, by rw [hread, NodeConfig.ofBytes, hdocument]⟩

theorem read_of_broken {b : Breakdown} (h : Broken source path b) :
    NodeConfig.read source path = .error (.breakdown b) := by
  cases h with
  | nulInPath h => exact read_of_nul h
  | @content fault h hfault =>
    obtain ⟨bytes, hdocument, hread⟩ := read_of_hasDocument h
    rw [hread, NodeConfig.ofBytes, hdocument]
    cases fault with
    | malformed => exact absurd rfl hfault
    | _ => rfl

theorem read_of_finds (h : Finds source path conf) : NodeConfig.read source path = .ok conf := by
  cases h with
  | nothing h =>
    obtain ⟨bytes, hdocument, hread⟩ := read_of_hasDocument h
    rw [hread, NodeConfig.ofBytes, hdocument]
  | mapping h =>
    obtain ⟨bytes, hdocument, hread⟩ := read_of_hasDocument h
    rw [hread, NodeConfig.ofBytes, hdocument]

/-! ## Loading -/

theorem ofSettings_of_defaultDelay (hd : Bootstrap.defaultDelay s = .ok d) :
    Bootstrap.ofSettings s = .ok ⟨none, s.replicationFloor, d⟩ := by
  simp only [Bootstrap.ofSettings, hd, ok_bind]
  rfl

theorem load_of_path {path? : Option String} (h : path?.or s.configPath? = some path) :
    load s source path? = loadFrom s source path := by
  simp only [load, h]

theorem load_of_absent (hd : Bootstrap.defaultDelay s = .ok d) {path? : Option String}
    (h : path?.or s.configPath? = none) :
    (load s source path?).outcome = .ok ⟨none, s.replicationFloor, d⟩ ∧
      severities (load s source path?) = [.info] := by
  simp only [load, h, withoutConfig, ofSettings_of_defaultDelay hd]
  exact ⟨rfl, rfl⟩

theorem loadFrom_of_useless (hd : Bootstrap.defaultDelay s = .ok d) (h : Useless source path) :
    (loadFrom s source path).outcome = .ok ⟨none, s.replicationFloor, d⟩ ∧
      severities (loadFrom s source path) = [.warning] := by
  obtain ⟨defect, hread⟩ := read_of_useless h
  simp only [loadFrom, hread, withoutConfig, ofSettings_of_defaultDelay hd]
  exact ⟨rfl, rfl⟩

theorem loadFrom_of_broken {b : Breakdown} (h : Broken source path b) :
    (loadFrom s source path).outcome = .error (.breakdown b) := by
  simp only [loadFrom, read_of_broken h]
  rfl

theorem loadFrom_of_read (h : NodeConfig.read source path = .ok conf) :
    loadFrom s source path = ofEntries s conf := by
  simp only [loadFrom, h]

/-! ## A node config that is read -/

/-- The bytes of a document with one entry, three copies. -/
def threeCopiesBytes : List UInt8 := "default_keyspace_rf: 3\n".toUTF8.toList

/-- The mapping in the document. -/
def threeCopies : Yaml.Entries :=
  [(.text (Text.points factorKey), Thunk.pure (.scalar (.integer 3)))]

/-- Wherever one looks, there is the document. -/
def threeCopiesSource : Source := ⟨fun _ => .ok threeCopiesBytes, Yaml.Document.ofPortions⟩

theorem ofPortions_threeCopies :
    Yaml.Document.ofPortions (Text.portionsOf threeCopiesBytes) = .ok (.mapping threeCopies) := by
  have hcontent : (Yaml.Document.contentOf (Text.portionsOf threeCopiesBytes)).toOption =
      some #[some (.mapping [(.text (Text.points factorKey), 2)]),
        some (.scalar (.text (Text.points factorKey))), some (.scalar (.integer 3))] := by
    decide +kernel
  rw [Yaml.Document.ofPortions]
  cases h : Yaml.Document.contentOf (Text.portionsOf threeCopiesBytes) with
  | error e =>
    rw [h] at hcontent
    cases hcontent
  | ok known =>
    rw [h] at hcontent
    cases hcontent
    rfl

theorem finds_threeCopies : Finds threeCopiesSource "node.yaml" threeCopies :=
  .mapping ⟨by decide, threeCopiesBytes, rfl, ofPortions_threeCopies⟩

/-! ## Any node config -/

/-- What loading gives, whatever there is at a path. Without a path and with a
node config of no use it gives the defaults, the latter with one warning. A
broken node config ends it. A mapping settles what a start needs, with a
warning for each entry of no use, unless it holds one of the numbers that a
warning or a duration has no room for. -/
theorem load_exact (hd : Bootstrap.defaultDelay s = .ok d) (source : Source)
    (path? : Option String) :
    (path?.or s.configPath? = none →
      (load s source path?).outcome = .ok ⟨none, s.replicationFloor, d⟩ ∧
        severities (load s source path?) = [.info]) ∧
    ∀ path, path?.or s.configPath? = some path →
      (Useless source path ∨ (∃ b, Broken source path b) ∨ ∃ conf, Finds source path conf) ∧
      (Useless source path →
        (load s source path?).outcome = .ok ⟨none, s.replicationFloor, d⟩ ∧
          severities (load s source path?) = [.warning]) ∧
      (∀ b, Broken source path b → (load s source path?).outcome = .error (.breakdown b)) ∧
      ∀ conf, Finds source path conf →
        (∀ e, (load s source path?).outcome = .error e ↔ EntryEscape conf e) ∧
        ∀ b, (load s source path?).outcome = .ok b →
          Settled s d conf b ∧ severities (load s source path?) = warnings conf := by
  refine ⟨load_of_absent hd, ?_⟩
  intro path hpath
  rw [load_of_path hpath]
  refine ⟨useless_or_broken_or_finds source path, loadFrom_of_useless hd,
    fun b => loadFrom_of_broken, ?_⟩
  intro conf hconf
  rw [loadFrom_of_read (read_of_finds hconf)]
  refine ⟨fun e => ofEntries_outcome_eq_error_iff hd, ?_⟩
  intro b hb
  rcases ofEntries_cases hd conf with ⟨e, -, herror⟩ | ⟨-, b', hok, hsettled, hwarnings⟩
  · rw [herror] at hb
    cases hb
  · rw [hok] at hb
    cases hb
    exact ⟨hsettled, hwarnings⟩

/-- The number of copies of a node config that is read, with not a word. -/
theorem load_exact_threeCopies :
    Bootstrap.defaultDelay {} = .ok ⟨10000000, by decide, by decide⟩ ∧
      ∃ b, (load {} threeCopiesSource (some "node.yaml")).outcome = .ok b ∧
        b.configuredFactor? = some 3 ∧ b.floor = 1 ∧
        severities (load {} threeCopiesSource (some "node.yaml")) = [] := by
  have hd : Bootstrap.defaultDelay {} = .ok ⟨10000000, by decide, by decide⟩ := rfl
  obtain ⟨-, hpath⟩ := load_exact hd threeCopiesSource (some "node.yaml")
  obtain ⟨-, -, -, hmapping⟩ := hpath "node.yaml" rfl
  obtain ⟨herror, hsettled⟩ := hmapping threeCopies finds_threeCopies
  refine ⟨hd, ?_⟩
  cases h : (load {} threeCopiesSource (some "node.yaml")).outcome with
  | error e =>
    cases (herror e).1 h with
    | factor hun => cases hun.1
    | delay hun =>
      obtain ⟨v, hv, -⟩ := hun.2
      cases hv
    | overflow _ hn _ => cases hn
  | ok b =>
    obtain ⟨hb, hwarnings⟩ := hsettled b h
    exact ⟨b, rfl, hb.factor_eq, hb.floor_eq, hwarnings⟩

/-- One byte that is no character ends loading, although the settings have a
delay. -/
theorem load_undecodable :
    Bootstrap.defaultDelay {} = .ok ⟨10000000, by decide, by decide⟩ ∧
      (load {} ⟨fun _ => .ok [0xff], Yaml.Document.ofPortions⟩ (some "node.yaml")).outcome =
        .error (.breakdown (.content (.undecodable ⟨.startByte, 0, [0xff]⟩))) := by
  have hpath : '\x00' ∉ (Path.ofText "node.yaml").text.toList := by decide
  have hportions : Text.portionsOf [0xff] = ⟨[], some ⟨.startByte, 0, [0xff]⟩⟩ := by cbv
  have hdocument : HasDocument ⟨fun _ => .ok [0xff], Yaml.Document.ofPortions⟩ "node.yaml"
      (.error (.undecodable ⟨.startByte, 0, [0xff]⟩)) := by
    refine ⟨hpath, [0xff], rfl, ?_⟩
    rw [hportions]
    rfl
  refine ⟨rfl, ?_⟩
  rw [load_of_path rfl]
  exact loadFrom_of_broken (.content hdocument (by simp))

end AuthKeyspace.Config
