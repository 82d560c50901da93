import NoteVault.Proofs.Registry.Replacement

namespace NoteVault

open Registry Session

namespace Rules

variable {rules : Rules}

-- Every allowed value is a scalar.
def AllowsScalars (rules : Rules) : Prop :=
  ∀ field ∈ rules.requiredFields, ∀ values, field.allowedValues = some values →
    ∀ value ∈ values, isScalar value = true

theorem scalarFault?_eq_none_iff (rules : Rules) : rules.scalarFault? = none ↔ rules.AllowsScalars := by
  rw [scalarFault?, RequiredField.scalarFault?_eq_none_iff]
  exact forall₂_congr fun field _ => field.nested?_eq_none_iff

theorem named_of_check (h : rules.check = .ok ()) :
    ∀ field ∈ rules.requiredFields, Text.isAllBlank field.name = false := by
  rw [check] at h
  split at h
  · cases h
  split at h
  · cases h
  · rename_i hnone
    simpa using hnone

-- The check of new rules does not look at allowed values, and the shape of rules does.
theorem ofJson_toJson_iff (h : rules.check = .ok ()) :
    ofJson rules.toJson = .ok rules ↔ rules.AllowsScalars := by
  rw [ofJson_toJson (named_of_check h), ← scalarFault?_eq_none_iff]
  cases rules.scalarFault? <;> simp

end Rules

theorem Constraint.ofDocument_of_scalars {constraint : Constraint}
    (hcheck : constraint.rules.check = .ok ()) (hreadable : constraint.rules.IsReadable)
    (h : constraint.rules.AllowsScalars) :
    ofDocument constraint.knowledgeBase constraint.document =
      .ok { constraint with subfolder := Path.normalize (singleLine constraint.subfolder) } := by
  rw [ofDocument_readable hreadable, (Rules.ofJson_toJson_iff hcheck).mpr h]

theorem Constraint.toOption_ofDocument_of_nested {constraint : Constraint}
    (hcheck : constraint.rules.check = .ok ()) (hreadable : constraint.rules.IsReadable)
    (h : ¬constraint.rules.AllowsScalars) :
    (ofDocument constraint.knowledgeBase constraint.document).toOption = none := by
  rw [← Rules.scalarFault?_eq_none_iff] at h
  obtain ⟨fault, hfault⟩ := Option.ne_none_iff_exists'.mp h
  rw [ofDocument_readable hreadable, Rules.ofJson_toJson (Rules.named_of_check hcheck), hfault]
  rfl

section

variable {σ : Type} {clock : σ → Time.Instant × σ} {root : String}
  (hroot : Path.Clean root) (hne : root ≠ "")
include hroot hne

-- The block of rules that pass the check always means their document form, but only rules
-- whose allowed values are scalars come back from it. A constraint with other ones is put on
-- record and passed over from then on.
theorem addConstraint_reread (orders : List Order)
    (hlines : ' ' ∉ root.toList ∨ ∀ order ∈ orders, order.2.AsksOneLine) {rules : Rules}
    (hcheck : rules.check = .ok ()) (hreadable : rules.IsReadable) (name raw : String) (state : σ) :
    let registry := inMemory .allowing clock root
    let later := stateAfter (registry.carryOutAll orders) state Vault.empty
    let reached := vaultAfter (registry.carryOutAll orders) state Vault.empty
    Rules.readBlock rules.toBlock = .ok rules.toJson ∧
      (Rules.ofJson rules.toJson = .ok rules ↔ rules.AllowsScalars) ∧
      Ends (registry.addConstraint name raw rules) later reached
        (fun constraint next after => ∃ now,
          (registry.constraints name).run next after = ((.ok now, next), after) ∧
          (rules.AllowsScalars → now.filter (fun found => Path.plainName found.subfolder =
            Path.plainName constraint.subfolder) =
              [{ constraint with subfolder := Path.normalize (singleLine constraint.subfolder) }]) ∧
          (¬rules.AllowsScalars → now.filter (fun found => Path.plainName found.subfolder =
            Path.plainName constraint.subfolder) = []))
        fun _ _ after => after = reached := by
  intro registry later reached
  refine ⟨hreadable.readBlock, Rules.ofJson_toJson_iff hcheck, ?_⟩
  have hv : reached.Filed root := filed_carryOutAll hroot hne (filed_empty root) orders hlines
  refine (ends_addConstraint hroot hne clock later reached name raw rules).mono ?_ ?_
  · rintro constraint next after ⟨rfl, hput⟩
    have hafter := hv.constrains hroot hne hput
    have hown := hput.filter_shown hafter
    obtain ⟨base, hname, hb⟩ := hput.kept
    obtain rfl : base.name = name := hname
    have hlater := (hput.keeps_iff hroot hne base).mpr hb
    refine ⟨_, run_constraints hroot hne clock next hafter.tree hput.checked hlater,
      fun hscalars => ?_, fun hnested => ?_⟩
    · rw [hown, Constraint.ofDocument_of_scalars hcheck hreadable hscalars]
      rfl
    · rw [hown, Constraint.toOption_ofDocument_of_nested hcheck hreadable hnested]
      rfl
  · exact fun _ _ _ hfailed => hfailed.1

end

-- One field allows a list, and another rule does not help it.
theorem addConstraint_reread_nested :
    let registry : Registry (Session Unit) :=
      inMemory .allowing (fun _ => (⟨⟨2024, 5, 17⟩, 8, 30, 0, 0⟩, ())) ".kb"
    let field : RequiredField := ⟨"status", .string, none, some [.string "draft", .array [.null]]⟩
    let rules : Rules := ⟨some ⟨some [field]⟩, none, some ⟨some 2, none, none⟩⟩
    let orders : List Order := [⟨_, .add ⟨"team", "", "docs", ""⟩⟩]
    let later := stateAfter (registry.carryOutAll orders) () Vault.empty
    let reached := vaultAfter (registry.carryOutAll orders) () Vault.empty
    rules.check = .ok () ∧ rules.IsReadable ∧ ¬rules.AllowsScalars ∧
      Rules.readBlock rules.toBlock = .ok rules.toJson ∧
      Ends (registry.addConstraint "team" "docs" rules) later reached
        (fun constraint next after => ∃ now,
          (registry.constraints "team").run next after = ((.ok now, next), after) ∧
          now.filter (fun found => Path.plainName found.subfolder =
            Path.plainName constraint.subfolder) = [])
        fun _ _ after => after = reached := by
  intro registry field rules orders later reached
  have hcheck : rules.check = .ok () := by decide
  have hreadable : rules.IsReadable := by
    refine ⟨fun other hother values hvalues => ?_, fun group hgroup length hlength => ?_,
      fun group hgroup length hlength => ?_⟩
    · obtain rfl := List.mem_singleton.mp hother
      obtain rfl := Option.some.inj hvalues
      decide +kernel
    · obtain rfl := Option.some.inj hgroup
      obtain rfl := Option.some.inj hlength
      decide
    · obtain rfl := Option.some.inj hgroup
      cases hlength
  have hnested : ¬rules.AllowsScalars := by
    intro h
    have hscalar := h field (List.mem_singleton.mpr rfl) _ rfl (.array [.null]) (by simp)
    cases hscalar
  obtain ⟨hblock, -, hends⟩ :=
    @addConstraint_reread Unit (fun _ => (⟨⟨2024, 5, 17⟩, 8, 30, 0, 0⟩, ())) ".kb"
      ⟨by decide, by decide⟩ (by decide) orders (.inl (by decide)) rules hcheck hreadable "team"
      "docs" ()
  refine ⟨hcheck, hreadable, hnested, hblock, hends.mono ?_ fun _ _ _ h => h⟩
  rintro constraint next after ⟨now, hrun, -, hnow⟩
  exact ⟨now, hrun, hnow hnested⟩

-- Rules that pass the check and are not read from their own block.
theorem Rules.check_admits_nested :
    let field : RequiredField := ⟨"x", .string, none, some [.array [.string "nested"]]⟩
    let rules : Rules := ⟨some ⟨some [field]⟩, none, none⟩
    rules.check = .ok () ∧ readBlock rules.toBlock = .ok rules.toJson ∧
      ofJson rules.toJson =
        .error (.notAScalar "frontmatter.required_fields[0].allowed_values" "array") := by
  intro field rules
  have hblock : readBlock rules.toBlock = .ok rules.toJson := by decide +kernel
  exact ⟨by decide, hblock, by decide⟩

end NoteVault
