import Bilingual.Proofs.FileTree.Writing

/-!
Trees that differ in what their files hold, and in nothing else. Paths lead to the same
places in them, and directories have the same names in them.
-/

namespace Bilingual

/-- A node, but for what a file holds. -/
def Node.shape : Node → Node
  | .file _ => .file .empty
  | node => node

namespace FileTree

/-- Two trees with the same names in the same order, for nodes of the same shape. -/
def SameShape (t t' : FileTree) : Prop :=
  t'.entries.map (Prod.map id Node.shape) = t.entries.map (Prod.map id Node.shape)

variable {t t' : FileTree} {path : Path} {place : List Name} {node : Node} {target : Path}

theorem shape_eq_directory_iff : node.shape = .directory ↔ node = .directory := by
  cases node with
  | file content => exact ⟨nofun, nofun⟩
  | directory | link target => exact Iff.rfl

theorem shape_eq_link_iff : node.shape = .link target ↔ node = .link target := by
  cases node with
  | file content => exact ⟨nofun, nofun⟩
  | directory | link target => exact Iff.rfl

theorem shape_eq_file_iff : node.shape = .file .empty ↔ ∃ content, node = .file content := by
  cases node with
  | file content => exact ⟨fun _ => ⟨content, rfl⟩, fun _ => rfl⟩
  | directory | link target => exact ⟨nofun, nofun⟩

theorem SameShape.symm (h : SameShape t t') : SameShape t' t :=
  Eq.symm h

theorem lookup_map_shape (es : List (List Name × Node)) (place : List Name) :
    (es.map (Prod.map id Node.shape)).lookup place = (es.lookup place).map Node.shape := by
  induction es with
  | nil => rfl
  | cons e es ih =>
      rw [List.map_cons, List.lookup_cons, List.lookup_cons, ih, Prod.map_fst, id]
      split
      · rfl
      · rfl

theorem SameShape.node?_eq (h : SameShape t t') (place : List Name) :
    (t'.node? place).map Node.shape = (t.node? place).map Node.shape := by
  unfold node?
  split
  · rfl
  · rw [← lookup_map_shape, ← lookup_map_shape, h]

theorem SameShape.exists_node (h : SameShape t t') (hnode : t.node? place = some node) :
    ∃ other, t'.node? place = some other ∧ other.shape = node.shape := by
  have heq := h.node?_eq place
  rw [hnode, Option.map_some] at heq
  exact Option.map_eq_some_iff.1 heq

theorem SameShape.directory (h : SameShape t t') (hnode : t.node? place = some .directory) :
    t'.node? place = some .directory := by
  obtain ⟨other, hother, heq⟩ := h.exists_node hnode
  rwa [shape_eq_directory_iff.1 heq] at hother

theorem SameShape.link (h : SameShape t t') (hnode : t.node? place = some (.link target)) :
    t'.node? place = some (.link target) := by
  obtain ⟨other, hother, heq⟩ := h.exists_node hnode
  rwa [shape_eq_link_iff.1 heq] at hother

theorem SameShape.keeps (h : SameShape t t') : Keeps t t' :=
  ⟨fun _ => h.directory, fun _ _ => ⟨h.symm.link, h.link⟩⟩

theorem SameShape.resolve_iff (h : SameShape t t') :
    t'.resolve path = .ok place ↔ t.resolve path = .ok place := by
  simp only [resolve_eq_ok_iff]
  exact and_congr_right fun _ =>
    ⟨fun hleads => hleads.keep h.symm.keeps, fun hleads => hleads.keep h.keeps⟩

theorem SameShape.isFile (h : SameShape t t') (hfile : t.isFile path = true) :
    t'.isFile path = true := by
  obtain ⟨content, hfind⟩ := isFile_iff.1 hfile
  obtain ⟨place, hplace, hnode⟩ := find_eq_ok_iff.1 hfind
  obtain ⟨other, hother, heq⟩ := h.exists_node hnode
  obtain ⟨content', rfl⟩ := shape_eq_file_iff.1 heq
  exact isFile_iff.2 ⟨content', find_eq_ok_iff.2 ⟨place, h.resolve_iff.2 hplace, hother⟩⟩

theorem SameShape.isFile_eq (h : SameShape t t') (path : Path) : t'.isFile path = t.isFile path :=
  Bool.eq_iff_iff.2 ⟨h.symm.isFile, h.isFile⟩

theorem SameShape.isDirectory (h : SameShape t t') (hdir : t.isDirectory path = true) :
    t'.isDirectory path = true := by
  obtain ⟨place, hplace, hnode⟩ := find_eq_ok_iff.1 (isDirectory_iff.1 hdir)
  exact isDirectory_iff.2 (find_eq_ok_iff.2 ⟨place, h.resolve_iff.2 hplace, h.directory hnode⟩)

/-- Nodes right inside a place, by their names. -/
def listed (place : List Name) (es : List (List Name × Node)) : List (Name × Node) :=
  es.filterMap fun e => if e.1.dropLast = place then e.1.getLast?.map (·, e.2) else none

theorem mem_listed_iff {es : List (List Name × Node)} {name : Name} :
    (name, node) ∈ listed place es ↔ (place ++ [name], node) ∈ es := by
  simp only [listed, List.mem_filterMap]
  constructor
  · rintro ⟨e, hmem, heq⟩
    split at heq
    · next hlast =>
        obtain ⟨other, hother, heq⟩ := Option.map_eq_some_iff.1 heq
        obtain ⟨front, hfront⟩ := List.getLast?_eq_some_iff.1 hother
        obtain ⟨rfl, rfl⟩ := Prod.mk.inj heq
        rw [hfront, List.dropLast_concat] at hlast
        rwa [← hlast, ← hfront]
    · cases heq
  · intro hmem
    exact ⟨_, hmem, by simp⟩

theorem listed_map_shape (place : List Name) (es : List (List Name × Node)) :
    (listed place es).map (Prod.map id Node.shape) =
      listed place (es.map (Prod.map id Node.shape)) := by
  rw [listed, listed, List.map_filterMap, List.filterMap_map]
  congr 1
  funext e
  dsimp only [Function.comp, Prod.map, id]
  split
  · rw [Option.map_map]
    rfl
  · rfl

theorem children_of_ok (h : t.resolve path = .ok place) :
    t.children path = if t.isDirectory path = true then listed place t.entries else [] := by
  unfold children
  rw [h]
  rfl

theorem children_of_error {e : Error} (h : t.resolve path = .error e) : t.children path = [] := by
  unfold children
  rw [h]

/-- A directory lists the same names, for nodes of the same shape. -/
theorem SameShape.children_map (h : SameShape t t') (path : Path) :
    (t'.children path).map (Prod.map id Node.shape) =
      (t.children path).map (Prod.map id Node.shape) := by
  cases hplace : t.resolve path with
  | ok place =>
      have hdir : t'.isDirectory path = t.isDirectory path :=
        Bool.eq_iff_iff.2 ⟨h.symm.isDirectory, h.isDirectory⟩
      rw [children_of_ok hplace, children_of_ok (h.resolve_iff.2 hplace), hdir]
      split
      · rw [listed_map_shape, listed_map_shape, h]
      · rfl
  | error e =>
      cases hplace' : t'.resolve path with
      | ok place => cases hplace.symm.trans (h.resolve_iff.1 hplace')
      | error e' => rw [children_of_error hplace, children_of_error hplace']

end FileTree

end Bilingual
