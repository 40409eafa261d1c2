import Bilingual.Proofs.FileTree.Writing
import Bilingual.Proofs.Path.Parents

/-!
Creating directories. A tree keeps all it holds and gets nothing but directories, also
where the creation fails half-way, so that every path leads where it led before. The
creation fails only where one of the directories asked for is missing in the end.
-/

namespace Bilingual.FileTree

/-- The tree `t'` holds all that `t` holds, and else only directories. -/
structure Grown (t t' : FileTree) : Prop where
  kept : ∀ place node, t.node? place = some node → t'.node? place = some node
  added : ∀ place node, t'.node? place = some node →
    t.node? place = some node ∨ node = .directory

variable {t t' t'' : FileTree} {path q : Path} {paths : List Path} {links : Nat}
  {here names front rest place : List Name} {name : Name} {node : Node}

theorem grown_refl (t : FileTree) : Grown t t :=
  ⟨fun _ _ h => h, fun _ _ h => Or.inl h⟩

theorem Grown.trans (h : Grown t t') (h' : Grown t' t'') : Grown t t'' where
  kept place node hnode := h'.kept place node (h.kept place node hnode)
  added place node hnode := by
    rcases h'.added place node hnode with hnode | hnew
    · exact h.added place node hnode
    · exact Or.inr hnew

theorem grown_put (hplace : t.node? place = none) : Grown t (t.put place .directory) := by
  have hne : place ≠ [] := by
    rintro rfl
    cases hplace
  refine ⟨fun other node hnode => ?_, fun other node hnode => ?_⟩
  · rw [node?_put t hne, if_neg, hnode]
    rintro rfl
    cases hnode.symm.trans hplace
  · rw [node?_put t hne] at hnode
    split at hnode
    · exact Or.inr (Option.some.inj hnode).symm
    · exact Or.inl hnode

theorem Grown.keeps (h : Grown t t') : Keeps t t' where
  directory place hdir := h.kept place .directory hdir
  link place _ := ⟨fun hlink => (h.added place _ hlink).resolve_right nofun,
    fun hlink => h.kept place _ hlink⟩

theorem resolve_grown (hgrown : Grown t t') (h : t.resolve path = .ok place) :
    t'.resolve path = .ok place := by
  obtain ⟨hcheck, hleads⟩ := resolve_eq_ok_iff.1 h
  exact resolve_eq_ok_iff.2 ⟨hcheck, hleads.keep hgrown.keeps⟩

theorem find_grown (hgrown : Grown t t') (h : t.find path = .ok node) :
    t'.find path = .ok node := by
  obtain ⟨place, hplace, hnode⟩ := find_eq_ok_iff.1 h
  exact find_eq_ok_iff.2 ⟨place, resolve_grown hgrown hplace, hgrown.kept _ _ hnode⟩

/-- There is a directory wherever names lead on. -/
theorem Leads.exists_directory (h : Leads t links here (front ++ rest) place) (hrest : rest ≠ []) :
    ∃ mid, Leads t links here front mid ∧ t.node? mid = some .directory := by
  generalize hnames : front ++ rest = names at h
  induction h generalizing front with
  | stop links here => exact absurd (List.append_eq_nil_iff.1 hnames).2 hrest
  | @idle links here more place name hhere hidle _ ih =>
      cases front with
      | nil => exact ⟨here, .stop _ _, hhere⟩
      | cons other front =>
          obtain ⟨rfl, hmore⟩ := List.cons.inj hnames
          obtain ⟨mid, hmid, hdir⟩ := ih hmore
          exact ⟨mid, .idle hhere hidle hmid, hdir⟩
  | @up links here more place hhere _ ih =>
      cases front with
      | nil => exact ⟨here, .stop _ _, hhere⟩
      | cons other front =>
          obtain ⟨rfl, hmore⟩ := List.cons.inj hnames
          obtain ⟨mid, hmid, hdir⟩ := ih hmore
          exact ⟨mid, .up hhere hmid, hdir⟩
  | @new links here name hhere _ _ =>
      cases front with
      | nil => exact ⟨here, .stop _ _, hhere⟩
      | cons other front =>
          exact absurd (List.append_eq_nil_iff.1 (List.cons.inj hnames).2).2 hrest
  | @follow links here more place name target hhere hplain hlink _ ih =>
      cases front with
      | nil => exact ⟨here, .stop _ _, hhere⟩
      | cons other front =>
          obtain ⟨rfl, rfl⟩ := List.cons.inj hnames
          obtain ⟨mid, hmid, hdir⟩ := ih (List.append_assoc target.names front rest)
          exact ⟨mid, .follow hhere hplain hlink hmid, hdir⟩
  | @enter links here more place name node hhere hplain hnode hlink _ ih =>
      cases front with
      | nil => exact ⟨here, .stop _ _, hhere⟩
      | cons other front =>
          obtain ⟨rfl, hmore⟩ := List.cons.inj hnames
          obtain ⟨mid, hmid, hdir⟩ := ih hmore
          exact ⟨mid, .enter hhere hplain hnode hlink hmid, hdir⟩

/-- A name that leads nowhere may follow those that lead to a directory. -/
theorem Leads.concat_idle (h : Leads t links here names place)
    (hplace : t.node? place = some .directory) (hidle : Path.isIdle name = true) :
    Leads t links here (names ++ [name]) place := by
  induction h with
  | stop links here => exact .idle hplace hidle (.stop _ _)
  | idle hhere hother _ ih => exact .idle hhere hother (ih hplace)
  | up hhere _ ih => exact .up hhere (ih hplace)
  | new _ _ hnone => cases hplace.symm.trans hnone
  | follow hhere hplain hlink _ ih =>
      exact .follow hhere hplain hlink (List.append_assoc .. ▸ ih hplace)
  | enter hhere hplain hnode hlink _ ih => exact .enter hhere hplain hnode hlink (ih hplace)

theorem checkPath_eq_ok_iff :
    checkPath path = .ok () ↔
      path.bytes ≠ [] ∧ 0 ∉ path.bytes ∧ path.bytes.length < pathLimit := by
  unfold checkPath Path.isEmpty
  split
  · next h => simp [List.isEmpty_iff.1 h]
  · next h =>
      have hne : path.bytes ≠ [] := fun hnil => h (List.isEmpty_iff.2 hnil)
      split
      · next hzero => simpa using fun _ hnot => absurd (by simpa using hzero) hnot
      · next hzero =>
          have hnot : (0 : UInt8) ∉ path.bytes := by simpa using hzero
          split
          · next hlong => simpa using fun _ _ => hlong
          · next hlong => simpa [hne, hnot] using hlong

theorem checkPath_of_starts (h : checkPath path = .ok ()) (hstarts : q.bytes <+: path.bytes)
    (hq : q.bytes ≠ []) : checkPath q = .ok () := by
  obtain ⟨-, hzero, hlength⟩ := checkPath_eq_ok_iff.1 h
  exact checkPath_eq_ok_iff.2
    ⟨hq, fun hmem => hzero (hstarts.subset hmem), Nat.lt_of_le_of_lt hstarts.length_le hlength⟩

/-- What is right above a path that leads anywhere is a directory. -/
theorem isDirectory_of_isBelow (hbelow : path.IsBelow q) (hq : q.bytes ≠ [])
    (h : t.resolve path = .ok place) : t.isDirectory q = true := by
  obtain ⟨hcheck, hleads⟩ := resolve_eq_ok_iff.1 h
  obtain ⟨front, rest, hnames, hrest, hfront⟩ := hbelow.names
  rw [hnames] at hleads
  obtain ⟨mid, hmid, hdir⟩ := hleads.exists_directory hrest
  have hleads' : Leads t linkLimit [] q.names mid := by
    rcases hfront with heq | heq
    · rwa [heq]
    · rw [heq]
      exact hmid.concat_idle hdir rfl
  have hcheck' := checkPath_of_starts hcheck hbelow.starts hq
  exact isDirectory_iff.2 (find_eq_ok_iff.2 ⟨mid, resolve_eq_ok_iff.2 ⟨hcheck', hleads'⟩, hdir⟩)

theorem isDirectory_of_mem_parents (h : t.resolve path = .ok place) (hmem : q ∈ path.parents)
    (hq : q.bytes ≠ []) : t.isDirectory q = true := by
  generalize hparents : path.parents = parents at hmem
  induction parents generalizing path place with
  | nil => cases hmem
  | cons first parents ih =>
      have hbelow : path.IsBelow first :=
        Path.isBelow_of_parent? (by rw [Path.parent?, hparents]; rfl)
      rcases List.mem_cons.1 hmem with rfl | hmore
      · exact isDirectory_of_isBelow hbelow hq h
      · have htail : first.parents = parents := by
          have := hbelow.parents
          rw [hparents] at this
          exact (List.cons.inj this).2.symm
        have hfirst : first.bytes ≠ [] := by
          intro hnil
          obtain ⟨bytes⟩ := first
          obtain rfl : bytes = [] := hnil
          rw [← htail, Path.parents_nil] at hmore
          cases hmore
        have hdir := isDirectory_of_isBelow hbelow hfirst h
        obtain ⟨mid, hmid, -⟩ := find_eq_ok_iff.1 (isDirectory_iff.1 hdir)
        exact ih hmid htail hmore

theorem newPlace_eq_ok (h : t.newPlace path = .ok place) : t.node? place = none := by
  unfold newPlace at h
  cases hcheck : checkPath path with
  | error e =>
      rw [hcheck] at h
      cases h
  | ok u =>
      simp only [hcheck, bind, Except.bind] at h
      split at h
      · cases h
      · next name before hnames =>
          split at h
          · cases h
          · next directory hwalk =>
              split at h
              · split at h
                · cases h
                · split at h
                  · cases h
                  · next hfree =>
                      cases h
                      simpa using fun heq => hfree (Or.inr (Or.inr heq))
              · cases h
              · cases h

/-- A place that is not found is in no directory. -/
theorem isDirectory_of_newPlace (h : t.newPlace path = .error .notFound) :
    t.isDirectory path = false := by
  rw [Bool.eq_false_iff]
  intro hdir
  obtain ⟨place, hplace, -⟩ := find_eq_ok_iff.1 (isDirectory_iff.1 hdir)
  obtain ⟨hcheck, hleads⟩ := resolve_eq_ok_iff.1 hplace
  unfold newPlace at h
  simp only [hcheck, bind, Except.bind] at h
  split at h
  · cases h
  · next name before hnames =>
      have hsplit : path.names =
          before.reverse ++ name :: (path.names.reverse.takeWhile List.isEmpty).reverse := by
        have := List.takeWhile_append_dropWhile (p := List.isEmpty) (l := path.names.reverse)
        rw [hnames] at this
        simpa using (congrArg List.reverse this).symm
      rw [hsplit] at hleads
      obtain ⟨mid, hmid, hnode⟩ := hleads.exists_directory (List.cons_ne_nil _ _)
      simp only [walk_of_leads hmid, hnode] at h
      split at h
      · cases h
      · split at h
        · cases h
        · cases h

theorem newPlace_of_createDirectory (h : t.createDirectory path = .error .notFound) :
    t.newPlace path = .error .notFound := by
  unfold createDirectory at h
  cases hplace : t.newPlace path with
  | error e =>
      rw [hplace] at h
      cases h
      rfl
  | ok place =>
      rw [hplace] at h
      cases h

theorem createDirectory_grown (h : t.createDirectory path = .ok t') : Grown t t' := by
  unfold createDirectory at h
  cases hplace : t.newPlace path with
  | error e =>
      rw [hplace] at h
      cases h
  | ok place =>
      rw [hplace] at h
      cases h
      exact grown_put (newPlace_eq_ok hplace)

theorem createChain_grown (t : FileTree) (paths : List Path) :
    Grown t (t.createChain paths).1 := by
  fun_induction createChain t paths with
  | case1 => exact grown_refl t
  | case2 => exact grown_refl t
  | case3 path above hpath t' hcreate => exact createDirectory_grown hcreate
  | case4 path above hpath hmissing t₁ habove t' hcreate ih =>
      rw [habove] at ih
      exact ih.trans (createDirectory_grown hcreate)
  | case5 path above settle hpath hmissing t₁ habove e hcreate ih =>
      rw [habove] at ih
      exact ih
  | case6 path above hpath hmissing hfailed ih => exact ih
  | case7 path above settle hpath e hother hcreate => exact grown_refl t

theorem isDirectory_of_settle {e e' : Error}
    (h : (if t.isDirectory path = true then .ok () else .error e') =
      (.error e : Except Error Unit)) :
    t.isDirectory path = false := by
  split at h
  · cases h
  · next hdir => exact Bool.eq_false_iff.2 hdir

/-- Where directories cannot be created, one of them is missing in the end. -/
theorem createChain_error {e : Error} (h : (t.createChain paths).2 = .error e) (hne : paths ≠ []) :
    ∃ q ∈ paths, q.bytes ≠ [] ∧ (t.createChain paths).1.isDirectory q = false := by
  have hbytes {path : Path} (hpath : ¬ path.isEmpty = true) : path.bytes ≠ [] :=
    fun hnil => hpath (List.isEmpty_iff.2 hnil)
  fun_induction createChain t paths with
  | case1 => exact absurd rfl hne
  | case2 path above hpath => cases h
  | case3 path above hpath t' hcreate => cases h
  | case4 path above hpath hmissing t₁ habove t' hcreate ih => cases h
  | case5 path above settle hpath hmissing t₁ habove e' hcreate ih =>
      exact ⟨path, List.mem_cons_self, hbytes hpath, isDirectory_of_settle h⟩
  | case6 path above hpath hmissing hfailed ih =>
      by_cases habove : above = []
      · subst habove
        exact ⟨path, List.mem_cons_self, hbytes hpath,
          isDirectory_of_newPlace (newPlace_of_createDirectory hmissing)⟩
      · obtain ⟨q, hmem, hq, hdir⟩ := ih h habove
        exact ⟨q, List.mem_cons_of_mem _ hmem, hq, hdir⟩
  | case7 path above settle hpath e' hother hcreate =>
      exact ⟨path, List.mem_cons_self, hbytes hpath, isDirectory_of_settle h⟩

end Bilingual.FileTree
