import Mathlib
import Bilingual.Preferences
import Bilingual.Proofs.FileTree.Growing

/-!
Saving the preferences. What has been saved is found again, and no other file changes.
A save that fails leaves all files as they were; directories that it has created by
then stay.
-/

namespace Bilingual.Preferences

variable {t t' : FileTree} {path : Path} {p : Preferences}

theorem parse?_text (p : Preferences) : parse? p.text = some p := by
  obtain ⟨dismissed⟩ := p
  cases dismissed with
  | false => decide +kernel
  | true => decide +kernel

theorem load_of_text (h : t.readText path = .ok p.text) : load t path = (p, []) := by
  simp only [load, h, parse?_text]

theorem write_of_save (h : save t path p = (t', .ok ())) :
    ∃ made : FileTree, made.write path p.text.toUTF8 = .ok t' := by
  unfold save at h
  dsimp only at h
  split at h
  · cases h
  · split at h
    · next written hwrite =>
        cases h
        exact ⟨_, hwrite⟩
    · cases h

/-- Preferences that have been saved are found in the file, whatever it held. -/
theorem readText_save (h : (save t path p).2 = .ok ()) :
    (save t path p).1.readText path = .ok p.text := by
  obtain ⟨made, hwrite⟩ := write_of_save (Prod.ext rfl h)
  exact FileTree.readText_write hwrite

/-- A path that leads to no file holds nothing, and nothing is said about it. -/
theorem load_of_no_file (h : ∀ content, t.find path ≠ .ok (.file content)) :
    load t path = (standard, []) := by
  unfold load FileTree.readText
  cases hfind : t.find path with
  | error e => rfl
  | ok node =>
      cases node with
      | file content => exact absurd hfind (h content)
      | directory => rfl
      | link target => rfl

/-- The first half of saving: the directories above the path. -/
def prepare (t : FileTree) (path : Path) : FileTree × Except FileTree.Error Unit :=
  match path.parent? with
  | some directory => t.createDirectories directory
  | none => (t, .ok ())

theorem prepare_grown (t : FileTree) (path : Path) : t.Grown (prepare t path).1 := by
  unfold prepare
  split
  · exact FileTree.createChain_grown t _
  · exact FileTree.grown_refl t

/-- Directories that cannot be created are in the way of the path. -/
theorem resolve_of_prepare_error {e : FileTree.Error} (h : (prepare t path).2 = .error e)
    (place : List Name) : (prepare t path).1.resolve path ≠ .ok place := by
  intro hplace
  unfold prepare at h hplace
  split at h
  · next directory hparent =>
      have hparents := (Path.isBelow_of_parent? hparent).parents
      rw [hparent] at hplace
      obtain ⟨q, hmem, hq, hdir⟩ := FileTree.createChain_error h (List.cons_ne_nil _ _)
      rw [← hparents] at hmem
      cases hdir.symm.trans (FileTree.isDirectory_of_mem_parents hplace hmem hq)
  · cases h

theorem find_of_write_error {e : FileTree.Error} {content : ByteArray}
    (h : t.write path content = .error e) (old : ByteArray) : t.find path ≠ .ok (.file old) := by
  intro hfind
  obtain ⟨place, hplace, hnode⟩ := FileTree.find_eq_ok_iff.1 hfind
  simp only [FileTree.write, hplace, bind, Except.bind, hnode] at h
  cases h

/-- A save writes the file into a tree that has got nothing but directories, or it leaves
such a tree, in which there is no such file. -/
theorem save_cases (t : FileTree) (path : Path) (p : Preferences) :
    ∃ made, t.Grown made ∧
      ((∃ written, made.write path p.text.toUTF8 = .ok written ∧
          save t path p = (written, .ok ())) ∨
        ∃ e, save t path p = (made, .error e) ∧
          ∀ content, made.find path ≠ .ok (.file content)) := by
  refine ⟨(prepare t path).1, prepare_grown t path, ?_⟩
  unfold save
  dsimp only
  split
  · next e hprepare =>
      refine Or.inr ⟨e, rfl, fun content hfind => ?_⟩
      obtain ⟨place, hplace, -⟩ := FileTree.find_eq_ok_iff.1 hfind
      exact resolve_of_prepare_error hprepare place hplace
  · split
    · next written hwrite => exact Or.inl ⟨written, hwrite, rfl⟩
    · next e hwrite => exact Or.inr ⟨e, rfl, find_of_write_error hwrite⟩

/-- What has been saved is loaded again. The one place that changes is the one that the
path leads to, and did lead to if it led anywhere. A save that fails changes nothing that
a path led to, and what is loaded is the same as before. In both cases nothing is new
but directories, that place apart. -/
theorem save_round_trips_or_loses_nothing (t : FileTree) (path : Path) (p : Preferences) :
    let after := (save t path p).1
    ((save t path p).2 = .ok () →
      load after path = (p, []) ∧
      ∃ place, after.resolve path = .ok place ∧
        (∀ before, t.resolve path = .ok before → before = place) ∧
        (∀ other node, other ≠ place → t.node? other = some node →
          after.node? other = some node) ∧
        (∀ other node, other ≠ place → after.node? other = some node →
          t.node? other = some node ∨ node = .directory) ∧
        ∀ other content, t.find other = .ok (.file content) → t.resolve other ≠ .ok place →
          after.find other = .ok (.file content)) ∧
    ∀ e, (save t path p).2 = .error e →
      load after path = load t path ∧
      t.Grown after ∧
      ∀ other content, t.find other = .ok (.file content) →
        after.find other = .ok (.file content) := by
  intro after
  obtain ⟨made, hgrown, ⟨written, hwrite, hsave⟩ | ⟨e, hsave, hfile⟩⟩ := save_cases t path p
  · have hafter : after = written := congrArg Prod.fst hsave
    obtain ⟨place, hplace, -, -⟩ := FileTree.write_eq_ok hwrite
    refine ⟨fun hok => ⟨load_of_text (readText_save hok), place, ?_⟩, fun e he => ?_⟩
    · rw [hafter]
      refine ⟨FileTree.resolve_write hwrite hplace, fun before hbefore => ?_,
        fun other node hne hnode => ?_, fun other node hne hnode => ?_,
        fun other content hfind hne => ?_⟩
      · exact Except.ok.inj ((FileTree.resolve_grown hgrown hbefore).symm.trans hplace)
      · rw [FileTree.node?_write hwrite hplace, if_neg hne, hgrown.kept other node hnode]
      · rw [FileTree.node?_write hwrite hplace, if_neg hne] at hnode
        exact hgrown.added other node hnode
      · refine FileTree.find_write_of_ne hwrite (FileTree.find_grown hgrown hfind) fun heq => ?_
        obtain ⟨goal, hgoal, -⟩ := FileTree.find_eq_ok_iff.1 hfind
        rw [FileTree.resolve_grown hgrown hgoal, hplace, ← hgoal] at heq
        exact hne heq
    · rw [hsave] at he
      cases he
  · have hafter : after = made := congrArg Prod.fst hsave
    have hbefore : ∀ content, t.find path ≠ .ok (.file content) := fun content hfind =>
      hfile content (FileTree.find_grown hgrown hfind)
    refine ⟨fun hok => ?_, fun e' _ => ?_⟩
    · rw [hsave] at hok
      cases hok
    · rw [hafter, load_of_no_file hfile, load_of_no_file hbefore]
      exact ⟨rfl, hgrown, fun other content => FileTree.find_grown hgrown⟩

/-- A tree of a single file. -/
def oneFile : FileTree := ⟨[([(Path.ofText "f").bytes], .file ⟨#[0x31]⟩)]⟩

/-- The file stands in the way of the first path, behind a directory that is created and
stays. The second path leads to the file. -/
theorem save_round_trips_or_loses_nothing_at_a_file :
    ((save oneFile (.ofText "/x/../f/p") ⟨true⟩).2 = .error .exists ∧
      (save oneFile (.ofText "/x/../f/p") ⟨true⟩).1.node? [(Path.ofText "x").bytes] =
        some .directory ∧
      (save oneFile (.ofText "/x/../f/p") ⟨true⟩).1.find (.ofText "/f") =
        .ok (.file ⟨#[0x31]⟩)) ∧
    (save oneFile (.ofText "/x/../f") ⟨true⟩).2 = .ok () ∧
      load (save oneFile (.ofText "/x/../f") ⟨true⟩).1 (.ofText "/x/../f") = (⟨true⟩, []) := by
  have hblocked : (save oneFile (.ofText "/x/../f/p") ⟨true⟩).2 = .error .exists := by cbv
  have hmade : (save oneFile (.ofText "/x/../f/p") ⟨true⟩).1.node? [(Path.ofText "x").bytes] =
      some .directory := by
    cbv
  have hfile : oneFile.find (.ofText "/f") = .ok (.file ⟨#[0x31]⟩) := by cbv
  have hfree : (save oneFile (.ofText "/x/../f") ⟨true⟩).2 = .ok () := by
    unfold save
    -- What is written makes no difference here, and takes long to evaluate.
    generalize (text ⟨true⟩).toUTF8 = content
    cbv
  obtain ⟨-, -, hkept⟩ :=
    (save_round_trips_or_loses_nothing oneFile (.ofText "/x/../f/p") ⟨true⟩).2 .exists hblocked
  obtain ⟨hload, -⟩ :=
    (save_round_trips_or_loses_nothing oneFile (.ofText "/x/../f") ⟨true⟩).1 hfree
  exact ⟨⟨hblocked, hmade, hkept _ _ hfile⟩, hfree, hload⟩

end Bilingual.Preferences
