import Bilingual.FileTree

/-!
What is written to a path is read back from it. Writing can change the kind of the
node that a path leads to, but of no node on the way there.
-/

namespace Bilingual.FileTree

variable {t : FileTree} {links : Nat} {here names place : List Name}

/-- A name that stands for a node of its own. -/
structure Plain (name : Name) : Prop where
  moves : Path.isIdle name = false
  down : name ≠ Path.up
  short : name.length ≤ nameLimit

/-- The ways in which names lead from one place to another. -/
inductive Leads (t : FileTree) : (links : Nat) → (here names place : List Name) → Prop
  | stop (links : Nat) (here : List Name) : Leads t links here [] here
  | idle {links : Nat} {here rest place : List Name} {name : Name} :
      t.node? here = some .directory → Path.isIdle name = true → Leads t links here rest place →
      Leads t links here (name :: rest) place
  | up {links : Nat} {here rest place : List Name} :
      t.node? here = some .directory → Leads t links here.dropLast rest place →
      Leads t links here (Path.up :: rest) place
  /-- The last name need not exist. -/
  | new {links : Nat} {here : List Name} {name : Name} :
      t.node? here = some .directory → Plain name → t.node? (here ++ [name]) = none →
      Leads t links here [name] (here ++ [name])
  | follow {links : Nat} {here rest place : List Name} {name : Name} {target : Path} :
      t.node? here = some .directory → Plain name →
      t.node? (here ++ [name]) = some (.link target) →
      Leads t links (if target.isAbsolute then [] else here) (target.names ++ rest) place →
      Leads t (links + 1) here (name :: rest) place
  | enter {links : Nat} {here rest place : List Name} {name : Name} {node : Node} :
      t.node? here = some .directory → Plain name → t.node? (here ++ [name]) = some node →
      (∀ target, node ≠ .link target) → Leads t links (here ++ [name]) rest place →
      Leads t links here (name :: rest) place

theorem leads_of_walk (h : t.walk links here names = .ok place) :
    Leads t links here names place := by
  fun_induction walk t links here names with
  | case1 links here =>
      cases h
      exact .stop _ _
  | case5 links here name rest hhere hidle ih => exact .idle hhere hidle (ih h)
  | case6 links here rest hhere hidle ih => exact .up hhere (ih h)
  | case8 links here name rest hhere hidle hup hshort hnone hrest =>
      cases h
      obtain rfl := List.isEmpty_iff.1 hrest
      exact .new hhere ⟨by simpa using hidle, hup, Nat.le_of_not_lt hshort⟩ hnone
  | case11 here name rest hhere hidle hup hshort target hlink links ih =>
      refine .follow hhere ⟨by simpa using hidle, hup, Nat.le_of_not_lt hshort⟩ hlink ?_
      simpa using ih h
  | case12 links here name rest hhere hidle hup hshort node hnode heq ih =>
      exact .enter hhere ⟨by simpa using hidle, hup, Nat.le_of_not_lt hshort⟩ heq
        (fun target => hnode target) (ih h)
  | _ => cases h

theorem walk_of_leads (h : Leads t links here names place) :
    t.walk links here names = .ok place := by
  induction h with
  | stop links here => simp [walk]
  | idle hhere hidle _ ih => simpa [walk, hhere, hidle] using ih
  | up hhere _ ih =>
      have hidle : Path.isIdle Path.up = false := by decide
      simpa [walk, hhere, hidle] using ih
  | new hhere hplain hnone =>
      simp [walk, hhere, hplain.moves, hplain.down, Nat.not_lt.2 hplain.short, hnone]
  | follow hhere hplain hlink _ ih =>
      simpa [walk, hhere, hplain.moves, hplain.down, Nat.not_lt.2 hplain.short, hlink] using ih
  | @enter links here rest place name node hhere hplain heq hnode _ ih =>
      cases node with
      | link target => exact absurd rfl (hnode target)
      | file content | directory =>
          simpa [walk, hhere, hplain.moves, hplain.down, Nat.not_lt.2 hplain.short, heq] using ih

/-- All places above are directories. -/
def Rooted (t : FileTree) (here : List Name) : Prop :=
  ∀ above, above <+: here → above ≠ here → t.node? above = some .directory

theorem rooted_nil : Rooted t [] := by
  intro above h hne
  exact absurd (List.prefix_nil.1 h) hne

theorem Rooted.dropLast (h : Rooted t here) : Rooted t here.dropLast := by
  intro above habove hne
  refine h above (habove.trans (List.dropLast_prefix here)) ?_
  rintro rfl
  have hle := habove.length_le
  rw [List.length_dropLast] at hle
  obtain rfl : above = [] := List.eq_nil_of_length_eq_zero (by omega)
  exact hne rfl

theorem Rooted.concat (h : Rooted t here) (hhere : t.node? here = some .directory)
    (name : Name) : Rooted t (here ++ [name]) := by
  intro above habove hne
  rcases List.prefix_concat_iff.1 habove with heq | habove
  · exact absurd heq hne
  · by_cases heq : above = here
    · exact heq ▸ hhere
    · exact h above habove heq

/-- Links are followed to their ends. -/
theorem Leads.not_link (h : Leads t links here names place) (hroot : Rooted t here)
    (hhere : ∀ target, t.node? here ≠ some (.link target)) (target : Path) :
    t.node? place ≠ some (.link target) := by
  induction h with
  | stop links here => exact hhere target
  | idle _ _ _ ih => exact ih hroot hhere
  | @up links here rest place hdir _ ih =>
      refine ih hroot.dropLast ?_
      by_cases hnil : here.dropLast = here
      · rwa [hnil]
      · rw [hroot _ (List.dropLast_prefix here) hnil]
        exact nofun
  | new _ _ hnone =>
      rw [hnone]
      exact nofun
  | @follow links here rest place name goal hdir _ _ _ ih =>
      apply ih
      · split
        · exact rooted_nil
        · exact hroot
      · split
        · exact nofun
        · exact hhere
  | enter hdir _ heq hnode _ ih =>
      apply ih (hroot.concat hdir _)
      rw [heq]
      intro target h
      exact hnode target (Option.some.inj h)

theorem lookup_replace_self {es : List (List Name × Node)} (h : (es.lookup place).isSome)
    (node : Node) :
    (es.map fun e => if e.1 = place then (place, node) else e).lookup place = some node := by
  induction es with
  | nil => cases h
  | cons e es ih =>
      by_cases he : e.1 = place
      · simp [he]
      · have hne : (place == e.1) = false := by simpa using Ne.symm he
        rw [List.lookup_cons, hne] at h
        rw [List.map_cons, if_neg he, List.lookup_cons, hne]
        exact ih h

theorem lookup_replace_of_ne (es : List (List Name × Node)) (node : Node) {other : List Name}
    (hne : other ≠ place) :
    (es.map fun e => if e.1 = place then (place, node) else e).lookup other =
      es.lookup other := by
  induction es with
  | nil => rfl
  | cons e es ih =>
      by_cases he : e.1 = place
      · have hnot : (other == e.1) = false := by simpa [he] using hne
        rw [List.map_cons, if_pos he, List.lookup_cons, ih, List.lookup_cons, hnot, ← he, hnot]
      · rw [List.map_cons, if_neg he, List.lookup_cons, ih, List.lookup_cons]

theorem node?_put (t : FileTree) (hplace : place ≠ []) (node : Node) (other : List Name) :
    (t.put place node).node? other = if other = place then some node else t.node? other := by
  unfold node? FileTree.put
  cases other with
  | nil => simp [hplace.symm]
  | cons name names =>
      simp only [List.isEmpty_cons, Bool.false_eq_true, if_false]
      by_cases hsome : (t.entries.lookup place).isSome
      · rw [if_pos hsome]
        by_cases heq : name :: names = place
        · rw [if_pos heq, heq]
          exact lookup_replace_self hsome node
        · rw [if_neg heq]
          exact lookup_replace_of_ne t.entries node heq
      · rw [if_neg hsome, List.lookup_append]
        have hnone := Option.not_isSome_iff_eq_none.1 hsome
        by_cases heq : name :: names = place
        · rw [if_pos heq, heq, hnone]
          simp
        · rw [if_neg heq, List.lookup_cons]
          have hnot : (name :: names == place) = false := by simpa using heq
          simp [hnot]

/-- The tree `t'` has all directories of `t`, and it has the same links. -/
structure Keeps (t t' : FileTree) : Prop where
  directory : ∀ place, t.node? place = some .directory → t'.node? place = some .directory
  link : ∀ place target,
    t'.node? place = some (.link target) ↔ t.node? place = some (.link target)

/-- Names lead on from directories only. -/
theorem Leads.eq_nil (h : Leads t links here names place)
    (hhere : t.node? here ≠ some .directory) : names = [] ∧ place = here := by
  cases h with
  | stop => exact ⟨rfl, rfl⟩
  | idle hdir => exact absurd hdir hhere
  | up hdir => exact absurd hdir hhere
  | new hdir => exact absurd hdir hhere
  | follow hdir => exact absurd hdir hhere
  | enter hdir => exact absurd hdir hhere

/-- Where there is no link, a last name leads to the place that it stands for. -/
theorem Leads.last {name : Name} (hhere : t.node? here = some .directory) (hplain : Plain name)
    (hlink : ∀ target, t.node? (here ++ [name]) ≠ some (.link target)) (links : Nat) :
    Leads t links here [name] (here ++ [name]) := by
  cases hnode : t.node? (here ++ [name]) with
  | none => exact .new hhere hplain hnode
  | some node =>
      refine .enter hhere hplain hnode (fun target heq => hlink target ?_) (.stop _ _)
      rw [hnode, heq]

/-- Files make no difference to where names lead. -/
theorem Leads.keep {t' : FileTree} (h : Leads t links here names place) (hkeep : Keeps t t') :
    Leads t' links here names place := by
  have hnot {other : List Name} (hother : ∀ target, t.node? other ≠ some (.link target))
      (target : Path) : t'.node? other ≠ some (.link target) :=
    fun heq => hother target ((hkeep.link other target).1 heq)
  induction h with
  | stop links here => exact .stop links here
  | idle hhere hidle _ ih => exact .idle (hkeep.directory _ hhere) hidle ih
  | up hhere _ ih => exact .up (hkeep.directory _ hhere) ih
  | new hhere hplain hnone =>
      refine .last (hkeep.directory _ hhere) hplain (hnot fun target => ?_) _
      rw [hnone]
      exact nofun
  | follow hhere hplain hlink _ ih =>
      exact .follow (hkeep.directory _ hhere) hplain ((hkeep.link _ _).2 hlink) ih
  | @enter links here rest goal name node hhere hplain hnode hnodelink hrest ih =>
      cases node with
      | link target => exact absurd rfl (hnodelink target)
      | directory =>
          exact .enter (hkeep.directory _ hhere) hplain (hkeep.directory _ hnode) nofun ih
      | file content =>
          -- Nothing leads on from a file, so that the names end here.
          have hfile {other : Node} (hne : other ≠ .file content) :
              t.node? (here ++ [name]) ≠ some other := by
            rw [hnode]
            exact fun heq => hne (Option.some.inj heq).symm
          obtain ⟨rfl, rfl⟩ := hrest.eq_nil (hfile nofun)
          exact .last (hkeep.directory _ hhere) hplain (hnot fun target => hfile nofun) _

/-- A file may be put where no directory and no link is. -/
theorem keeps_put (hdir : t.node? place ≠ some .directory)
    (hlink : ∀ target, t.node? place ≠ some (.link target)) (content : ByteArray) :
    Keeps t (t.put place (.file content)) := by
  have hplace : place ≠ [] := by
    rintro rfl
    exact hdir rfl
  have hput := node?_put t hplace (.file content)
  refine ⟨fun other hother => ?_, fun other target => ?_⟩
  · rw [hput, if_neg, hother]
    rintro rfl
    exact hdir hother
  · rw [hput]
    split
    · next heq => exact ⟨nofun, fun hother => absurd (heq ▸ hother) (hlink target)⟩
    · exact Iff.rfl

/-- Nor does such a file lead names to where they did not lead before. -/
theorem keeps_of_put {content : ByteArray} (hplace : place ≠ [])
    (hlink : ∀ target, t.node? place ≠ some (.link target)) :
    Keeps (t.put place (.file content)) t := by
  have hput := node?_put t hplace (.file content)
  refine ⟨fun other hother => ?_, fun other target => ?_⟩
  · rw [hput] at hother
    split at hother
    · cases hother
    · exact hother
  · rw [hput]
    split
    · next heq => exact ⟨fun hother => absurd (heq ▸ hother) (hlink target), nofun⟩
    · exact Iff.rfl

theorem fromUTF8?_toUTF8 (text : String) : String.fromUTF8? text.toUTF8 = some text := by
  unfold String.fromUTF8?
  rw [String.toUTF8_eq_toByteArray, dif_pos text.isValidUTF8]
  rfl

theorem resolve_eq_ok_iff {path : Path} :
    t.resolve path = .ok place ↔
      checkPath path = .ok () ∧ Leads t linkLimit [] path.names place := by
  unfold resolve
  cases checkPath path with
  | error e => exact ⟨nofun, nofun⟩
  | ok u => exact ⟨fun h => ⟨rfl, leads_of_walk h⟩, fun h => walk_of_leads h.2⟩

theorem find_eq_ok_iff {path : Path} {node : Node} :
    t.find path = .ok node ↔ ∃ place, t.resolve path = .ok place ∧ t.node? place = some node := by
  cases hplace : t.resolve path with
  | error e => simp [find, hplace, bind, Except.bind]
  | ok place =>
      cases hnode : t.node? place with
      | none => simp [find, hplace, bind, Except.bind, hnode]
      | some other => simp [find, hplace, bind, Except.bind, hnode]

theorem isDirectory_iff {path : Path} :
    t.isDirectory path = true ↔ t.find path = .ok .directory := by
  unfold isDirectory
  split
  · next h => simp [h]
  · next h =>
      simp only [Bool.false_eq_true, false_iff]
      exact h

theorem isFile_iff {path : Path} :
    t.isFile path = true ↔ ∃ content, t.find path = .ok (.file content) := by
  unfold isFile
  split
  · next content h => simp [h]
  · next h =>
      simp only [Bool.false_eq_true, false_iff, not_exists]
      exact h

/-- A file can be written where there is one, or nothing. -/
theorem write_eq_ok {t' : FileTree} {path : Path} {content : ByteArray}
    (h : t.write path content = .ok t') :
    ∃ place, t.resolve path = .ok place ∧ t.node? place ≠ some .directory ∧
      t' = t.put place (.file content) := by
  unfold write at h
  cases hplace : t.resolve path with
  | error e =>
      rw [hplace] at h
      cases h
  | ok place =>
      simp only [hplace, bind, Except.bind] at h
      refine ⟨place, rfl, ?_⟩
      split at h
      · cases h
      · next hdir =>
          cases h
          exact ⟨hdir, rfl⟩

/-- A write leads no path elsewhere. -/
theorem resolve_write {t' : FileTree} {path other : Path} {content : ByteArray}
    (h : t.write path content = .ok t') (hother : t.resolve other = .ok place) :
    t'.resolve other = .ok place := by
  obtain ⟨target, hresolve, hdir, rfl⟩ := write_eq_ok h
  have hlink := (resolve_eq_ok_iff.1 hresolve).2.not_link rooted_nil (fun _ => nofun)
  obtain ⟨hcheck, hleads⟩ := resolve_eq_ok_iff.1 hother
  exact resolve_eq_ok_iff.2 ⟨hcheck, hleads.keep (keeps_put hdir hlink content)⟩

/-- A write changes the one place that its path leads to. -/
theorem node?_write {t' : FileTree} {path : Path} {content : ByteArray}
    (h : t.write path content = .ok t') (hplace : t.resolve path = .ok place)
    (other : List Name) :
    t'.node? other = if other = place then some (.file content) else t.node? other := by
  obtain ⟨target, hresolve, hdir, rfl⟩ := write_eq_ok h
  obtain rfl := Except.ok.inj (hresolve.symm.trans hplace)
  refine node?_put t ?_ (.file content) other
  rintro rfl
  exact hdir rfl

/-- Behind a write the path leads to what has been written. -/
theorem find_write {t' : FileTree} {path : Path} {content : ByteArray}
    (h : t.write path content = .ok t') : t'.find path = .ok (.file content) := by
  obtain ⟨place, hplace, -, -⟩ := write_eq_ok h
  exact find_eq_ok_iff.2
    ⟨place, resolve_write h hplace, (node?_write h hplace place).trans (if_pos rfl)⟩

/-- What another path leads to is still there behind a write. -/
theorem find_write_of_ne {t' : FileTree} {path other : Path} {content : ByteArray} {node : Node}
    (h : t.write path content = .ok t') (hother : t.find other = .ok node)
    (hne : t.resolve other ≠ t.resolve path) : t'.find other = .ok node := by
  obtain ⟨place, hplace, -, -⟩ := write_eq_ok h
  obtain ⟨goal, hgoal, hnode⟩ := find_eq_ok_iff.1 hother
  have hapart : goal ≠ place := by
    rintro rfl
    exact hne (hgoal.trans hplace.symm)
  refine find_eq_ok_iff.2 ⟨goal, resolve_write h hgoal, ?_⟩
  rw [node?_write h hplace, if_neg hapart, hnode]

/-- A text that has been written is read back. -/
theorem readText_write {t' : FileTree} {path : Path} {text : String}
    (h : t.write path text.toUTF8 = .ok t') : t'.readText path = .ok text := by
  simp only [readText, find_write h, bind, Except.bind, fromUTF8?_toUTF8]

/-- A path that leads elsewhere is read as before. -/
theorem readText_write_of_ne {t' : FileTree} {path other : Path} {content : ByteArray}
    (h : t.write path content = .ok t') (hne : t.resolve other ≠ t.resolve path) :
    (t'.readText other).toOption = (t.readText other).toOption := by
  obtain ⟨place, hresolve, hdir, rfl⟩ := write_eq_ok h
  have hlink := (resolve_eq_ok_iff.1 hresolve).2.not_link rooted_nil (fun _ => nofun)
  have hplace : place ≠ [] := by
    rintro rfl
    exact hdir rfl
  have hsame (goal : List Name) :
      (t.put place (.file content)).resolve other = .ok goal ↔ t.resolve other = .ok goal := by
    simp only [resolve_eq_ok_iff]
    exact and_congr_right fun _ => ⟨fun hleads => hleads.keep (keeps_of_put hplace hlink),
      fun hleads => hleads.keep (keeps_put hdir hlink content)⟩
  cases hother : t.resolve other with
  | ok goal =>
      have hgoal : goal ≠ place := by
        rintro rfl
        exact hne (hother.trans hresolve.symm)
      simp only [readText, find, hother, (hsame goal).2 hother, bind, Except.bind,
        node?_put t hplace, if_neg hgoal]
  | error e =>
      cases hagain : (t.put place (.file content)).resolve other with
      | ok goal =>
          cases hother.symm.trans ((hsame goal).1 hagain)
      | error e' =>
          simp only [readText, find, hother, hagain, bind, Except.bind]
          rfl

end Bilingual.FileTree
