import AuthKeyspace.Declared.Tables
import AuthKeyspace.Proofs.Table.Renaming
import Mathlib.Data.List.Infix

/-!
# The declared tables can be built

The texts of the auth tables are fixed, so reading them is a computation, which
is done on their characters. Each is read as a table of its own name, and that
is all that building asks for (`exists_build`).

None depends on its name for that. Any name of a table may be put in its place,
in any keyspace, and nothing else of the table changes; only a template without
a guard does not take the name `if` (`build_renamed_exact`).
-/

namespace AuthKeyspace.Declared

open AuthKeyspace.Cql AuthKeyspace.Table

set_option maxRecDepth 2000 in
/-- Every declared table can be built. -/
theorem exists_build : ∀ d ∈ declarations, ∃ t, Descriptor.build keyspaceName d = .ok t := by
  -- the characters of a literal are those it is written with, so none has to be decoded
  have build {d : Declaration} {ns cs : List Char} :=
    @exists_build_of_declaresItself keyspaceName d ns cs
  simp only [declarations, List.forall_mem_cons]
  refine ⟨?roles, ?roleMembers, ?rolePermissions, ?resourceRoleIndex, ?networkPermissions,
    ?cidrPermissions, ?cidrGroups, ?identityToRole, ?none⟩
  case roles | rolePermissions | cidrGroups =>
    exact build String.toList_ofList
      (toList_append_eq String.toList_ofList String.toList_ofList) (by decide +kernel)
  case roleMembers | resourceRoleIndex | networkPermissions | cidrPermissions | identityToRole =>
    exact build String.toList_ofList String.toList_ofList (by decide +kernel)
  case none => simp

theorem names_nodup : (declarations.map (·.name)).Nodup := by
  decide

theorem name_ne_if : ∀ d ∈ declarations, d.name ≠ "if" := by
  decide

/-! ## Under another name -/

theorem exists_opens_of_toList {d : Declaration} {cs : List Char} (guarded : Bool)
    (htext : d.schemaText.toList = cs)
    (h : decide (spaced (openingWords guarded) ++ "%s (".toList <+: cs ∧
      (guarded = true ↔ "IF NOT EXISTS".toList <:+: cs)) = true) :
    ∃ guarded, d.Opens guarded ∧
      (guarded = true ↔ "IF NOT EXISTS".toList <:+: d.schemaText.toList) := by
  subst htext
  have hboth := of_decide_eq_true h
  exact ⟨guarded, hboth⟩

/-- Every template opens as a statement does, and has the guard if it has the
words of the guard anywhere. -/
theorem exists_opens : ∀ d ∈ declarations, ∃ guarded, d.Opens guarded ∧
    (guarded = true ↔ "IF NOT EXISTS".toList <:+: d.schemaText.toList) := by
  simp only [declarations, List.forall_mem_cons]
  refine ⟨?roles, ?roleMembers, ?rolePermissions, ?resourceRoleIndex, ?networkPermissions,
    ?cidrPermissions, ?cidrGroups, ?identityToRole, ?none⟩
  case roles | rolePermissions =>
    exact exists_opens_of_toList true
      (toList_append_eq String.toList_ofList String.toList_ofList) (by decide +kernel)
  case roleMembers | resourceRoleIndex | networkPermissions | identityToRole =>
    exact exists_opens_of_toList true String.toList_ofList (by decide +kernel)
  case cidrPermissions =>
    exact exists_opens_of_toList false String.toList_ofList (by decide +kernel)
  case cidrGroups =>
    exact exists_opens_of_toList false
      (toList_append_eq String.toList_ofList String.toList_ofList) (by decide +kernel)
  case none => simp

/-- Every declared template is parametric in the name. Under any name and in any
keyspace it is built as the table of that name, with the columns, the key and
the guard it has under its own; but not under the name `if` without a guard. -/
theorem build_renamed_exact : ∀ d ∈ declarations, ∀ keyspace,
    ∃ t, Descriptor.build keyspace d = .ok t ∧
      ∀ name description, tableNameFault? name = none →
        (¬ (name = "if" ∧ ¬ "IF NOT EXISTS".toList <:+: d.schemaText.toList) →
          ∃ u, Descriptor.build keyspace (d.renamed name description) = .ok u ∧
            u.name = name ∧ u.layout.name = name ∧ u.layout.columns = t.layout.columns ∧
              u.layout.primaryKey = t.layout.primaryKey ∧
                u.layout.guarded = t.layout.guarded) ∧
        (name = "if" ∧ ¬ "IF NOT EXISTS".toList <:+: d.schemaText.toList →
          ∃ e, Descriptor.build keyspace (d.renamed name description) =
            .error (.unreadable name e)) := by
  intro d hd keyspace
  obtain ⟨own, hown⟩ := exists_build d hd
  obtain ⟨guarded, hopens, hguarded⟩ := exists_opens d hd
  obtain ⟨hname, -⟩ := Descriptor.build_eq_ok_iff.1 hown
  obtain ⟨t, ht, htlayout⟩ := Descriptor.exists_build_renamed hopens hown hname
    (fun _ => name_ne_if d hd) keyspace d.description
  refine ⟨t, ht, fun name description hlegal => ⟨?_, ?_⟩⟩
  · intro hnot
    have hif : guarded = false → name ≠ "if" := by
      rintro rfl rfl
      exact hnot ⟨rfl, fun hwords => absurd (hguarded.2 hwords) (by decide)⟩
    obtain ⟨u, hu, hulayout⟩ :=
      Descriptor.exists_build_renamed hopens hown hlegal hif keyspace description
    refine ⟨u, hu, (Descriptor.build_name hu).1, ?_⟩
    rw [hulayout, htlayout]
    exact ⟨rfl, rfl, rfl, rfl⟩
  · rintro ⟨rfl, hwords⟩
    obtain rfl : guarded = false := Bool.eq_false_iff.2 fun h => hwords (hguarded.1 h)
    exact Descriptor.exists_error_renamed_if hopens keyspace description

theorem build_renamed_exact_cidrGroups :
    (∃ u, Descriptor.build "ks" (cidrGroups.renamed "primary" "") = .ok u ∧ u.name = "primary") ∧
      ∃ e, Descriptor.build "ks" (cidrGroups.renamed "if" "") = .error (.unreadable "if" e) := by
  have hchars : cidrGroups.schemaText.toList = _ :=
    toList_append_eq String.toList_ofList String.toList_ofList
  have hwords : ¬ "IF NOT EXISTS".toList <:+: cidrGroups.schemaText.toList := by
    rw [hchars]
    decide +kernel
  obtain ⟨t, -, hrenamed⟩ := build_renamed_exact cidrGroups (by simp [declarations]) "ks"
  obtain ⟨u, hu, hname, -⟩ := (hrenamed "primary" "" (by decide)).1 fun h => absurd h.1 (by decide)
  exact ⟨⟨u, hu, hname⟩, (hrenamed "if" "" (by decide)).2 ⟨rfl, hwords⟩⟩

end AuthKeyspace.Declared
