import NoteVault.Proofs.Program.Settles
import NoteVault.Proofs.Registry.Filed
import NoteVault.Proofs.Registry.Returned
import NoteVault.Proofs.Time.Reading

namespace NoteVault

open Registry Session

namespace KnowledgeBase

variable {name text : String} {base : KnowledgeBase}

theorem isValid_of_ofRecord (h : ofRecord name text = .ok base) : base.createTime.isValid = true := by
  obtain ⟨createTime, subfolder, hcreated, -, rfl⟩ := ofRecord_eq_ok h
  obtain ⟨raw, -, hread⟩ := exists_of_bind_eq_ok hcreated
  split at hread
  · rename_i instant hinstant
    obtain rfl := Except.ok.inj hread
    exact Time.Instant.isValid_of_ofText? hinstant
  · cases hread

-- Whoever wrote a record and however, once written again it says the same, with blanks
-- for the line ends of the description.
theorem ofRecord_record_of_read (h : ofRecord name text = .ok base)
    (hyear : 0 ≤ base.createTime.date.year ∧ base.createTime.date.year ≤ 9999)
    (hline : IsSingleLine base.subfolder) :
    ofRecord name base.record = .ok { base with description := singleLine base.description } := by
  have hread := (isSettled_of_ofRecord h).ofRecord (isValid_of_ofRecord h) hyear
  rw [name_of_ofRecord h, shown, singleLine_eq hline] at hread
  exact hread

end KnowledgeBase

section

variable {σ : Type} {policy : Policy σ} {clock : σ → Time.Instant × σ} {root name : String}
  {state : σ} {vault : Vault} {base : KnowledgeBase}

variable (hroot : Path.Clean root) (hne : root ≠ "")
include hroot hne

theorem keeps_of_result_get (hp : policy.OnlyRefuses)
    (h : result ((inMemory policy clock root).get name).run state vault = .ok (some base)) :
    KnowledgeBase.checkName name = .ok () ∧ base.name = name ∧ vault.Keeps root base := by
  refine Ends.result (fun outcome => outcome = .ok (some base) → _)
    (((works_get fun _ => serves_reading).ends_reading hp).mono ?_ ?_) h
  · rintro found _ _ ⟨hfound, -⟩ hbase
    obtain ⟨hname, hshows⟩ := hfound base (Except.ok.inj hbase)
    exact ⟨hname, keeps_of_shows_reading hroot hne hname hshows⟩
  · rintro _ _ _ - ⟨⟩

-- Nothing keeps a knowledge base from being put on record again.
theorem ends_commit_again (hsame : base.name = name) (hname : KnowledgeBase.checkName name = .ok ()) :
    Ends ((inMemory .allowing clock root).commit name base) state vault
      (fun other _ after => other = base ∧
        after.HasRecord ((inMemory (.allowing : Policy σ) clock root).recordPath base.name) base)
      fun _ _ _ => False := by
  subst hsame
  have hclean := clean_recordPlace_of_checkName hroot hne hname
  have hplace : (inMemory (.allowing : Policy σ) clock root).recordPath base.name =
      recordPlace root base.name := recordPath_inMemory hroot.normal
  have hwritten : vault.perform (.write
      ((inMemory (.allowing : Policy σ) clock root).recordPath base.name) base.record .overwrite) =
        (.ok (), vault.withFile (recordPlace root base.name) base.record) := by
    rw [hplace]
    exact Vault.perform_of_clean (by simpa [Call.paths] using hclean)
  have hrecord : (vault.withFile (recordPlace root base.name) base.record).HasRecord
      ((inMemory (.allowing : Policy σ) clock root).recordPath base.name) base := by
    rw [hplace]
    refine ⟨hname, hclean.normal.symm ▸ hclean, ?_⟩
    rw [hclean.normal, Vault.get?_withFile, if_pos rfl]
  unfold commit
  rw [ends_bind, ends_of_run_ok (run_ask hwritten), ends_bind, ends_lift]
  refine (ends_pure base).mpr ⟨rfl, ?_⟩
  exact hrecord.refreshIndex Policy.onlyRefuses_allowing _ _

-- A change to the rules alone is put on record.
theorem ends_update_rules (hname : KnowledgeBase.checkName base.name = .ok ())
    (hb : vault.Keeps root base) (rules : String) :
    Ends ((inMemory .allowing clock root).update base.name ⟨none, none, some rules⟩) state vault
      (fun updated _ after => updated = { base with organizationRules := Text.trimmed rules } ∧
        after.HasRecord ((inMemory (.allowing : Policy σ) clock root).recordPath base.name) updated)
      fun _ _ _ => False := by
  have hget := run_get clock state hroot.normal hname (clean_recordPlace_of_checkName hroot hne hname) hb
  rw [update_eq, ends_bind, ends_of_run_ok (run_require hget), ends_bind]
  have hsame : (KnowledgeBaseChange.applied ⟨none, none, some rules⟩ base).name = base.name := rfl
  refine (ends_pure _).mpr ((ends_commit_again hroot hne hsame hname).mono ?_ fun _ _ _ h => h)
  rintro updated _ after ⟨rfl, hrecord⟩
  exact ⟨rfl, hrecord⟩

theorem result_get_of_ofRecord (clock : σ → Time.Instant × σ) (state : σ) {text : String}
    (hname : KnowledgeBase.checkName name = .ok ())
    (hread : KnowledgeBase.ofRecord name text = .ok base) :
    result ((inMemory .allowing clock root).get name).run state
      (vault.withFile (recordPlace root name) text) = .ok (some base) := by
  obtain rfl := KnowledgeBase.name_of_ofRecord hread
  have hkept : (vault.withFile (recordPlace root base.name) text).Keeps root base :=
    ⟨(KnowledgeBase.isName_of_checkName hname).1, text, by rw [Vault.get?_withFile, if_pos rfl], hread⟩
  rw [result, run_get clock state hroot.normal hname (clean_recordPlace_of_checkName hroot hne hname) hkept]

-- New rules alone are put on record without harm to what else the record says.
theorem ends_update_rules_read (clock : σ → Time.Instant × σ) (rules : String)
    (hbase : result ((inMemory .allowing clock root).get name).run state vault = .ok (some base))
    (hyear : 0 ≤ base.createTime.date.year ∧ base.createTime.date.year ≤ 9999)
    (hline : IsSingleLine base.subfolder) :
    Ends ((inMemory .allowing clock root).update name ⟨none, none, some rules⟩) state vault
      (fun updated next after => updated = { base with organizationRules := Text.trimmed rules } ∧
        ((inMemory .allowing clock root).get name).run next after = ((.ok (some { base with
          description := singleLine base.description
          organizationRules := Text.trimmed rules }), next), after))
      fun _ _ _ => False := by
  obtain ⟨hname, rfl, hb⟩ := keeps_of_result_get hroot hne Policy.onlyRefuses_allowing hbase
  obtain ⟨-, text, -, hread⟩ := id hb
  have hsettled := (KnowledgeBase.isSettled_of_ofRecord hread).applied ⟨none, none, some rules⟩
  refine (ends_update_rules hroot hne hname hb rules).mono ?_ fun _ _ _ h => h
  rintro updated next after ⟨rfl, hrecord⟩
  have hvalid := KnowledgeBase.isValid_of_ofRecord hread
  have hagain := hsettled.ofRecord hvalid hyear
  refine ⟨rfl, (run_get_of_hasRecord hrecord hagain).trans ?_⟩
  simp only [KnowledgeBase.shown, KnowledgeBaseChange.applied, singleLine_eq hline, Option.getD_none,
    Option.map_some, Option.getD_some]

-- A record that can be read can be written again, whoever wrote it and in whatever form:
-- it then says the same, with blanks for the line ends of the description. An update of
-- the rules alone does so. Years that are not written with four digits and subfolders with
-- line ends are not for this theorem.
theorem record_rewritten (clock : σ → Time.Instant × σ) :
    (∀ name text base, KnowledgeBase.ofRecord name text = .ok base →
      0 ≤ base.createTime.date.year ∧ base.createTime.date.year ≤ 9999 → IsSingleLine base.subfolder →
        KnowledgeBase.ofRecord name base.record =
            .ok { base with description := singleLine base.description } ∧
          (IsSingleLine base.description → KnowledgeBase.ofRecord name base.record = .ok base)) ∧
    ∀ name rules base state vault,
      let registry := inMemory .allowing clock root
      result (registry.get name).run state vault = .ok (some base) →
      0 ≤ base.createTime.date.year ∧ base.createTime.date.year ≤ 9999 → IsSingleLine base.subfolder →
        Ends (registry.update name ⟨none, none, some rules⟩) state vault
          (fun updated next after => updated = { base with organizationRules := Text.trimmed rules } ∧
            (registry.get name).run next after = ((.ok (some { base with
              description := singleLine base.description
              organizationRules := Text.trimmed rules }), next), after))
          fun _ _ _ => False := by
  refine ⟨fun name text base h hyear hline => ?_, fun name rules base state vault =>
    ends_update_rules_read hroot hne clock rules⟩
  have hread := KnowledgeBase.ofRecord_record_of_read h hyear hline
  refine ⟨hread, fun hdescription => ?_⟩
  rwa [singleLine_eq hdescription] at hread

end

-- A record by hand with CR LF, a comment, a field of no use, no quotes, a list for the
-- description, and a local time with a fraction.
theorem record_rewritten_by_hand :
    let text := "---\r\nsubfolder: /docs//plan/\r\n# by hand\r\nowner: 'me'\r\ndescription: [a, 1]\r\n" ++
      "create_time: 2024-05-17t10:30:00.5+02:00\r\n---\r\n\r\nBe brief.\r\n"
    let base : KnowledgeBase := ⟨"team", ⟨⟨2024, 5, 17⟩, 8, 30, 0, 500000000⟩, "[\"a\",1]",
      "docs/plan", "Be brief."⟩
    let registry : Registry (Session Unit) := inMemory .allowing (fun _ => (base.createTime, ())) ".kb"
    let vault := Vault.empty.withFile (recordPlace ".kb" "team") text
    KnowledgeBase.ofRecord "team" text = .ok base ∧ KnowledgeBase.ofRecord "team" base.record = .ok base ∧
      Ends (registry.update "team" ⟨none, none, some "Write.\n"⟩) () vault
        (fun updated next after => updated = { base with organizationRules := "Write." } ∧
          (registry.get "team").run next after =
            ((.ok (some { base with organizationRules := "Write." }), next), after))
        fun _ _ _ => False := by
  intro text base registry vault
  have hread : KnowledgeBase.ofRecord "team" text = .ok base := by decide +kernel
  have hroot : Path.Clean ".kb" := ⟨by decide, by decide⟩
  have hget : result (registry.get "team").run () vault = .ok (some base) :=
    result_get_of_ofRecord hroot (by decide) _ () (by decide) hread
  obtain ⟨hrewritten, hupdated⟩ := record_rewritten hroot (by decide)
    fun _ : Unit => (base.createTime, ())
  obtain ⟨-, hsame⟩ := hrewritten "team" text base hread (by decide) (by decide)
  have hdescription : singleLine base.description = base.description := by decide
  have hrules : Text.trimmed "Write.\n" = "Write." := by decide
  have hends := hupdated "team" "Write.\n" base () vault hget (by decide) (by decide)
  rw [hdescription, hrules] at hends
  exact ⟨hread, hsame (by decide), hends⟩

-- A carriage return inside the description is lost when the record is written again.
theorem record_rewritten_carriage_return :
    let text := "---\ncreate_time: \"2024-05-17T08:30:00Z\"\ndescription: \"a\rb\"\nsubfolder: \"docs\"\n---\n"
    let base : KnowledgeBase := ⟨"team", ⟨⟨2024, 5, 17⟩, 8, 30, 0, 0⟩, "a\rb", "docs", ""⟩
    let registry : Registry (Session Unit) := inMemory .allowing (fun _ => (base.createTime, ())) ".kb"
    let vault := Vault.empty.withFile (recordPlace ".kb" "team") text
    KnowledgeBase.ofRecord "team" text = .ok base ∧ KnowledgeBase.ofRecord "team" base.record ≠ .ok base ∧
      result (registry.get "team").run () vault = .ok (some base) ∧
      Ends (registry.update "team" ⟨none, none, some "Write."⟩) () vault
        (fun _ next after => ∃ read, result (registry.get "team").run next after = .ok (some read) ∧
          read.description ≠ base.description)
        fun _ _ _ => False := by
  intro text base registry vault
  have hroot : Path.Clean ".kb" := ⟨by decide, by decide⟩
  have hread : KnowledgeBase.ofRecord "team" text = .ok base := by decide +kernel
  have hlost : singleLine base.description ≠ base.description := by decide
  have hagain := KnowledgeBase.ofRecord_record_of_read hread (by decide) (by decide)
  have hget : result (registry.get "team").run () vault = .ok (some base) :=
    result_get_of_ofRecord hroot (by decide) _ () (by decide) hread
  refine ⟨hread, fun hsame => hlost ?_, hget, ?_⟩
  · exact congrArg KnowledgeBase.description (Except.ok.inj (hagain.symm.trans hsame))
  · refine (ends_update_rules_read hroot (by decide) _ "Write." hget (by decide) (by decide)).mono ?_
      fun _ _ _ h => h
    rintro updated next after ⟨-, hrun⟩
    let read : KnowledgeBase := { base with
      description := singleLine base.description
      organizationRules := Text.trimmed "Write." }
    refine ⟨read, ?_, hlost⟩
    rw [result, hrun]

end NoteVault
