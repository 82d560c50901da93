import NoteVault.Proofs.Program.Exact
import NoteVault.Proofs.Registry.NoteWork
import NoteVault.Proofs.Registry.Atomicity
import NoteVault.Proofs.Storage.Levels

namespace NoteVault

open Registry Session

variable {σ : Type} {clock : σ → Time.Instant × σ} {root : String} {state : σ} {vault : Vault}

namespace Registry

-- The notes of a knowledge base in a folder and, if so wished, below, on at most so
-- many levels.
def walkNotes {m : Type → Type} [Monad m] (registry : Registry m) (name folder : String)
    (recursive : Bool) (levels : Nat) : Work m (List String) := do
  let base ← registry.require name
  let start ← orFail .badPath (base.resolve folder)
  let notes ← registry.notesIn recursive levels [start]
  return notes.mergeSort fun left right => left ≤ right

end Registry

theorem run_depth : (liftM (inMemory .allowing clock root).storage.depth : Work (Session σ) Nat).run
    state vault = ((.ok vault.depth, state), vault) := rfl

-- Each folder of a listing is one name longer than the folder listed.
theorem Vault.IsTree.length_segments_of_list (hv : vault.IsTree) {raw : String} {listing : Listing}
    (h : (vault.perform (.list raw)).1 = .ok listing) : ∀ path ∈ listing.folders,
      vault.hasFolder path = true ∧
        (Path.segments path).length = (Path.segments raw).length + 1 := by
  intro path hp
  obtain ⟨hparent, hfolder⟩ := (Vault.list_ok h).2 path hp
  obtain ⟨hclean, hne⟩ := hv.folder_clean path hfolder
  rw [Path.length_segments_of_parent hclean.normal hne, hparent, Path.segments_normalize]
  exact ⟨hfolder, rfl⟩

-- The listings of several folders, as a walk takes them.
theorem ends_listings (hv : vault.IsTree) (folders : List String) :
    Ends (folders.mapM (listingOf (inMemory .allowing clock root).storage)) state vault
      (fun listings _ after => after = vault ∧ ∀ path ∈ listings.flatMap Listing.folders,
        ∃ raw ∈ folders, vault.hasFolder path = true ∧
          (Path.segments path).length = (Path.segments raw).length + 1)
      fun _ _ _ => True := by
  refine (Works.ends_reading Policy.onlyRefuses_allowing
    (.mapM fun raw _ => works_listingOf (by trivial))).mono ?_ fun _ _ _ _ => trivial
  rintro listings _ after ⟨hlistings, rfl⟩
  refine ⟨rfl, fun path hp => ?_⟩
  obtain ⟨listing, hl, hp⟩ := List.mem_flatMap.mp hp
  obtain ⟨raw, hr, (hlist | ⟨fault, hlist⟩) | rfl⟩ := hlistings listing hl
  · exact ⟨raw, hr, hv.length_segments_of_list hlist.symm path hp⟩
  · cases hlist
  · cases hp

-- Once the levels reach below all folders, one more makes no difference.
theorem run_notesIn_succ (hv : vault.IsTree) (recursive : Bool) (levels : Nat) (folders : List String)
    (hlevels : ∀ raw ∈ folders, vault.folders.size ≤ levels + (Path.segments raw).length) :
    ((inMemory .allowing clock root).notesIn recursive (levels + 1) folders).run state vault =
      ((inMemory .allowing clock root).notesIn recursive (levels + 2) folders).run state vault := by
  induction levels generalizing folders state with
  | zero =>
      unfold notesIn
      refine Ends.run_bind_congr ((ends_listings hv folders).mono ?_ fun _ _ _ _ => trivial)
      rintro listings _ after ⟨rfl, hbelow⟩
      -- a folder below would be longer than any that is there
      have hnone : listings.flatMap Listing.folders = [] := by
        refine List.eq_nil_iff_forall_not_mem.mpr fun path hp => ?_
        obtain ⟨raw, hr, hfolder, hlen⟩ := hbelow path hp
        have hsize := hlevels raw hr
        have hlong := hv.length_segments_le hfolder
        omega
      simp only [hnone, ite_self, List.isEmpty_nil, if_true]
  | succ levels ih =>
      unfold notesIn
      refine Ends.run_bind_congr ((ends_listings hv folders).mono ?_ fun _ _ _ _ => trivial)
      rintro listings _ after ⟨rfl, hbelow⟩
      have hdeeper : ∀ path ∈ (if recursive then listings.flatMap Listing.folders else []),
          after.folders.size ≤ levels + (Path.segments path).length := by
        intro path hp
        split at hp
        · obtain ⟨raw, hr, -, hlen⟩ := hbelow path hp
          have hsize := hlevels raw hr
          omega
        · cases hp
      dsimp only
      generalize (if recursive then listings.flatMap Listing.folders else []) = deeper at hdeeper
      split
      · rfl
      · exact run_bind_of_eq (ih deeper hdeeper) _

theorem run_notesIn_of_le (hv : vault.IsTree) (recursive : Bool) (folders : List String)
    {levels : Nat} (hlevels : vault.depth ≤ levels) :
    ((inMemory .allowing clock root).notesIn recursive levels folders).run state vault =
      ((inMemory .allowing clock root).notesIn recursive vault.depth folders).run state vault := by
  induction levels, hlevels using Nat.le_induction with
  | base => rfl
  | succ levels hle ih =>
      obtain ⟨fewer, rfl⟩ : ∃ fewer, levels = fewer + 1 :=
        ⟨levels - 1, by rw [Vault.depth] at hle; omega⟩
      rw [← ih, run_notesIn_succ hv recursive fewer folders]
      intro raw _
      rw [Vault.depth] at hle
      omega

-- The notes of a knowledge base are found by a walk on as many levels as one likes,
-- if only there are enough.
theorem run_listNotes (hv : vault.IsTree) (name folder : String) (recursive : Bool) {levels : Nat}
    (hlevels : vault.depth ≤ levels) :
    ((inMemory .allowing clock root).listNotes name folder recursive).run state vault =
      ((inMemory .allowing clock root).walkNotes name folder recursive levels).run state vault := by
  have hrequire : Ends ((inMemory .allowing clock root).require name) state vault
      (fun _ _ after => after = vault) fun _ _ _ => True :=
    ((works_require fun _ => serves_reading).ends_reading Policy.onlyRefuses_allowing).mono
      (fun _ _ _ hend => hend.2) fun _ _ _ _ => trivial
  unfold listNotes walkNotes
  refine Ends.run_bind_congr (hrequire.mono ?_ fun _ _ _ _ => trivial)
  rintro base next after rfl
  cases hstart : base.resolve folder with
  | error fault =>
      have hfail : (orFail .badPath (.error fault) : Work (Session σ) String).run next after =
          ((.error (.badPath fault), next), after) := rfl
      rw [run_bind_error hfail, run_bind_error hfail]
  | ok start =>
      rw [run_bind_ok (run_orFail rfl), run_bind_ok (run_orFail rfl), run_bind_ok run_depth]
      exact (run_bind_of_eq (run_notesIn_of_le hv recursive [start] hlevels) _).symm

end NoteVault
