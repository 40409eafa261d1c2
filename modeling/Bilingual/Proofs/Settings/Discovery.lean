import Mathlib
import Bilingual.Settings
import Bilingual.Proofs.FileTree.Shape
import Bilingual.Proofs.Path.Parents

/-!
Where the settings of a directory are found. The directory itself comes first, then
those above it from the nearest on, and in the end those right inside it. The search
asks where there are files, and never what they hold. Only the file that it ends at is
read.
-/

namespace Bilingual

namespace Path

variable {p q d : Path} {n : Nat}

/-- The path that is reached by going up so many times. -/
def ancestor? (p : Path) : Nat → Option Path
  | 0 => some p
  | n + 1 => (p.ancestor? n).bind parent?

theorem parents_of_getElem? (h : (p :: p.parents)[n]? = some d) : d.parents = p.parents.drop n := by
  induction n generalizing p with
  | zero =>
      obtain rfl := Option.some.inj h
      rfl
  | succ n ih =>
      rcases parents_cases p with ⟨hparents, -⟩ | ⟨q, hq⟩
      · rw [hparents] at h
        cases h
      · have hparents := hq.parents
        rw [hparents, List.getElem?_cons_succ] at h
        rw [hparents, List.drop_succ_cons]
        exact ih h

theorem ancestor?_eq (p : Path) (n : Nat) : p.ancestor? n = (p :: p.parents)[n]? := by
  induction n with
  | zero => rfl
  | succ n ih =>
      rw [ancestor?, ih, List.getElem?_cons_succ]
      cases hd : (p :: p.parents)[n]? with
      | none =>
          have hlength := List.getElem?_eq_none_iff.1 hd
          rw [List.length_cons] at hlength
          exact (List.getElem?_eq_none_iff.2 (by omega)).symm
      | some d =>
          rw [Option.bind_some, parent?, parents_of_getElem? hd, List.head?_drop]

theorem isSome_ancestor?_iff (p : Path) (n : Nat) :
    (p.ancestor? n).isSome = true ↔ n ≤ p.parents.length := by
  rw [ancestor?_eq, Option.isSome_iff_ne_none, Ne, List.getElem?_eq_none_iff, List.length_cons]
  omega

/-- Going up takes the last component away, as long as there is one. -/
theorem ancestor?_succ (h : p.ancestor? n = some d) :
    (p.ancestor? (n + 1) = none ∧ (d.components = [] ∨ d.components = [.root])) ∨
      ∃ q last, p.ancestor? (n + 1) = some q ∧ d.components = q.components ++ [last] ∧
        q.bytes <+: d.bytes := by
  rw [ancestor?, h, Option.bind_some]
  rcases parents_cases d with ⟨hparents, hcomponents⟩ | ⟨q, hq⟩
  · refine Or.inl ⟨?_, hcomponents⟩
    rw [parent?, hparents]
    rfl
  · obtain ⟨last, hlast⟩ := hq.components
    exact Or.inr ⟨q, last, hq.parent?_eq, hlast, hq.starts⟩

end Path

namespace Settings

/-- A directory has a settings file. -/
def Holds (t : FileTree) (directory : Path) : Prop :=
  ∃ content, t.find (directory.join fileName) = .ok (.file content)

/-- The directory and those above it have no settings files. -/
def NoneAbove (t : FileTree) (start : Path) : Prop :=
  ∀ n directory, start.ancestor? n = some directory → ¬ Holds t directory

/-- The first directory on the way up that has a settings file. -/
def Nearest (t : FileTree) (start directory : Path) : Prop :=
  ∃ n, start.ancestor? n = some directory ∧ Holds t directory ∧
    ∀ m, m < n → ∀ nearer, start.ancestor? m = some nearer → ¬ Holds t nearer

/-- A directory has a directory of that name in it, which is none through a link. -/
def Inside (t : FileTree) (start : Path) (name : Name) : Prop :=
  ∃ place, t.resolve start = .ok place ∧ t.node? place = some .directory ∧
    (place ++ [name], Node.directory) ∈ t.entries

/-- What is found is what the settings file of this directory sets: all of it if it can
be read, and else nothing. -/
structure Found.ReadIn (found : Found) (t : FileTree) (directory : Path) : Prop where
  directory_eq : found.directory = directory
  loaded : (found.settings, found.log) = load t (directory.join fileName)
  readable : ∀ text settings, t.readText (directory.join fileName) = .ok text →
    parse? text = some settings → found.settings = settings ∧ found.log = []
  unreadable : (∀ text, t.readText (directory.join fileName) = .ok text → parse? text = none) →
    found.settings = none

variable {t t' : FileTree} {start path directory : Path} {name : Name} {node : Node}

theorem hasFile_iff : hasFile t directory = true ↔ Holds t directory :=
  FileTree.isFile_iff

theorem nearest_of_find? (h : (start :: start.parents).find? (hasFile t) = some directory) :
    Nearest t start directory := by
  obtain ⟨hfile, n, hn, hget, hnone⟩ := List.find?_eq_some_iff_getElem.1 h
  refine ⟨n, ?_, hasFile_iff.1 hfile, fun m hm nearer hnearer => ?_⟩
  · rw [Path.ancestor?_eq]
    exact List.getElem?_eq_some_iff.2 ⟨hn, hget⟩
  · rw [Path.ancestor?_eq] at hnearer
    obtain ⟨_, rfl⟩ := List.getElem?_eq_some_iff.1 hnearer
    have := hnone m hm
    rw [← hasFile_iff]
    simpa using this

theorem noneAbove_of_find? (h : (start :: start.parents).find? (hasFile t) = none) :
    NoneAbove t start := by
  intro n directory hn
  rw [Path.ancestor?_eq] at hn
  rw [← hasFile_iff]
  exact List.find?_eq_none.1 h directory (List.mem_of_getElem? hn)

/-- There is one nearest directory at most. -/
theorem Nearest.unique {other : Path} (h : Nearest t start directory)
    (h' : Nearest t start other) : other = directory := by
  obtain ⟨n, hn, hfile, hnone⟩ := h
  obtain ⟨m, hm, hfile', hnone'⟩ := h'
  rcases Nat.lt_trichotomy m n with hlt | rfl | hlt
  · exact absurd hfile' (hnone m hlt other hm)
  · exact Option.some.inj (hm.symm.trans hn)
  · exact absurd hfile (hnone' n hlt directory hn)

theorem not_noneAbove (h : Nearest t start directory) : ¬ NoneAbove t start := by
  obtain ⟨n, hn, hfile, -⟩ := h
  exact fun hnone => hnone n directory hn hfile

theorem mem_children_iff :
    (name, node) ∈ t.children start ↔ ∃ place, t.resolve start = .ok place ∧
      t.node? place = some .directory ∧ (place ++ [name], node) ∈ t.entries := by
  cases hplace : t.resolve start with
  | error e => simp [FileTree.children_of_error hplace]
  | ok place =>
      have hdir : t.isDirectory start = true ↔ t.node? place = some .directory := by
        rw [FileTree.isDirectory_iff, FileTree.find_eq_ok_iff, hplace]
        simp
      simp only [FileTree.children_of_ok hplace, hdir, Except.ok.injEq, exists_eq_left']
      split
      · next hnode => simp [hnode, FileTree.mem_listed_iff]
      · next hnode => simp [hnode]

theorem inside_iff : Inside t start name ↔ (name, .directory) ∈ t.children start :=
  mem_children_iff.symm

/-- The directories right inside another that are searched. -/
def inner (t : FileTree) (start : Path) : List Path :=
  (t.children start).filterMap fun (name, node) =>
    if node = .directory then some (start.join ⟨name⟩) else none

theorem mem_inner_iff :
    path ∈ inner t start ↔ ∃ name, Inside t start name ∧ path = start.join ⟨name⟩ := by
  simp only [inner, List.mem_filterMap, inside_iff]
  constructor
  · rintro ⟨⟨name, node⟩, hmem, heq⟩
    dsimp only at heq
    split at heq
    · next hnode =>
        subst hnode
        exact ⟨name, hmem, (Option.some.inj heq).symm⟩
    · cases heq
  · rintro ⟨name, hmem, rfl⟩
    exact ⟨_, hmem, by simp⟩

/-- The three ways in which the search can end. -/
theorem directory?_cases (t : FileTree) (start : Path) :
    (∃ directory, Nearest t start directory ∧ directory? t start = some directory) ∨
      NoneAbove t start ∧
        ((∃ name, Inside t start name ∧ Holds t (start.join ⟨name⟩) ∧
            directory? t start = some (start.join ⟨name⟩)) ∨
          ((∀ name, Inside t start name → ¬ Holds t (start.join ⟨name⟩)) ∧
            directory? t start = none)) := by
  have hdirectory : directory? t start =
      ((start :: start.parents).find? (hasFile t) <|> (inner t start).find? (hasFile t)) := rfl
  cases habove : (start :: start.parents).find? (hasFile t) with
  | some directory =>
      rw [hdirectory, habove]
      exact Or.inl ⟨directory, nearest_of_find? habove, rfl⟩
  | none =>
      refine Or.inr ⟨noneAbove_of_find? habove, ?_⟩
      rw [hdirectory, habove]
      cases hinner : (inner t start).find? (hasFile t) with
      | some directory =>
          obtain ⟨name, hinside, rfl⟩ := mem_inner_iff.1 (List.mem_of_find?_eq_some hinner)
          exact Or.inl ⟨name, hinside, hasFile_iff.1 (List.find?_some hinner), rfl⟩
      | none =>
          refine Or.inr ⟨fun name hinside => ?_, rfl⟩
          rw [← hasFile_iff]
          exact List.find?_eq_none.1 hinner _ (mem_inner_iff.2 ⟨name, hinside, rfl⟩)

theorem discover_of_some (h : directory? t start = some directory) :
    discover t start = loadFrom t directory := by
  rw [discover, h]

theorem discover_of_none (h : directory? t start = none) :
    discover t start = { settings := none, directory := start, log := [] } := by
  rw [discover, h]

theorem discover_of_nearest (h : Nearest t start directory) :
    discover t start = loadFrom t directory := by
  rcases directory?_cases t start with ⟨other, hother, hsome⟩ | ⟨hnone, -⟩
  · rw [discover_of_some hsome, h.unique hother]
  · exact absurd hnone (not_noneAbove h)

theorem discover_of_noneAbove (h : NoneAbove t start) :
    (∃ name, Inside t start name ∧ Holds t (start.join ⟨name⟩) ∧
        discover t start = loadFrom t (start.join ⟨name⟩)) ∨
      ((∀ name, Inside t start name → ¬ Holds t (start.join ⟨name⟩)) ∧
        discover t start = { settings := none, directory := start, log := [] }) := by
  rcases directory?_cases t start with
    ⟨other, hother, -⟩ | ⟨-, ⟨name, hinside, hfile, hsome⟩ | ⟨hfile, hnone⟩⟩
  · exact absurd h (not_noneAbove hother)
  · exact Or.inl ⟨name, hinside, hfile, discover_of_some hsome⟩
  · exact Or.inr ⟨hfile, discover_of_none hnone⟩

theorem exists_nearest {n : Nat} (hn : start.ancestor? n = some directory)
    (hfile : Holds t directory) : ∃ nearest, Nearest t start nearest := by
  rcases directory?_cases t start with ⟨nearest, hnearest, -⟩ | ⟨hnone, -⟩
  · exact ⟨nearest, hnearest⟩
  · exact absurd hfile (hnone n directory hn)

theorem readIn_loadFrom (t : FileTree) (directory : Path) :
    (loadFrom t directory).ReadIn t directory where
  directory_eq := rfl
  loaded := rfl
  readable text settings htext hparse := by simp [loadFrom, load, htext, hparse]
  unreadable h := by
    simp only [loadFrom, load]
    cases htext : t.readText (directory.join fileName) with
    | error e => rfl
    | ok text => simp only [h text htext]

theorem loadFrom_congr (h : t'.find (directory.join fileName) = t.find (directory.join fileName)) :
    loadFrom t' directory = loadFrom t directory := by
  simp only [loadFrom, load, FileTree.readText, h]

/-- While a directory on the way up has a settings file, only such files count. -/
theorem discover_congr (h : Nearest t start directory)
    (hsame : ∀ n other, start.ancestor? n = some other →
      t'.find (other.join fileName) = t.find (other.join fileName)) :
    discover t' start = discover t start := by
  have hholds {n : Nat} {other : Path} (hother : start.ancestor? n = some other) :
      Holds t' other ↔ Holds t other := by
    rw [Holds, Holds, hsame n other hother]
  obtain ⟨n, hn, hfile, hnone⟩ := h
  have hnearest : Nearest t' start directory :=
    ⟨n, hn, (hholds hn).2 hfile, fun m hm other hother =>
      (hholds hother).not.2 (hnone m hm other hother)⟩
  rw [discover_of_nearest hnearest, loadFrom_congr (hsame n directory hn),
    discover_of_nearest ⟨n, hn, hfile, hnone⟩]

theorem directory_discover (t : FileTree) (start : Path) :
    (discover t start).directory = (directory? t start).getD start := by
  unfold discover
  split
  · next h => rw [h]; rfl
  · next h => rw [h]; rfl

theorem directory?_congr (hfile : ∀ directory, hasFile t' directory = hasFile t directory)
    (hinner : inner t' start = inner t start) : directory? t' start = directory? t start := by
  have hasFile_eq : hasFile t' = hasFile t := funext hfile
  change ((start :: start.parents).find? (hasFile t') <|> (inner t' start).find? (hasFile t')) = _
  rw [hasFile_eq, hinner]
  rfl

theorem inner_of_sameShape (h : t.SameShape t') (start : Path) :
    inner t' start = inner t start := by
  have hinner (t : FileTree) : inner t start =
      ((t.children start).map (Prod.map id Node.shape)).filterMap fun (name, node) =>
        if node = .directory then some (start.join ⟨name⟩) else none := by
    rw [inner, List.filterMap_map]
    congr 1
    funext e
    simp only [Function.comp, Prod.map, id, FileTree.shape_eq_directory_iff]
  rw [hinner, hinner, h.children_map]

/-- What files hold makes no difference to the directory that is found. -/
theorem directory_of_sameShape (h : t.SameShape t') (start : Path) :
    (discover t' start).directory = (discover t start).directory := by
  have hfile (directory : Path) : hasFile t' directory = hasFile t directory := h.isFile_eq _
  rw [directory_discover, directory_discover, directory?_congr hfile (inner_of_sameShape h start)]

/-- Of the directories right inside, one at most has a settings file. -/
def AtMostOne (t : FileTree) (start : Path) : Prop :=
  ∀ name other, Inside t start name → Holds t (start.join ⟨name⟩) →
    Inside t start other → Holds t (start.join ⟨other⟩) → other = name

/-- Which paths are regular files decides, together with which directories are right
inside. -/
theorem directory_of_sameFiles (hfile : ∀ path, t'.isFile path = t.isFile path)
    (hinside : ∀ name, Inside t' start name ↔ Inside t start name) (hone : AtMostOne t start) :
    (discover t' start).directory = (discover t start).directory := by
  have hholds (directory : Path) : Holds t' directory ↔ Holds t directory := by
    rw [← hasFile_iff, ← hasFile_iff, hasFile, hasFile, hfile]
  rcases directory?_cases t start with ⟨directory, ⟨n, hn, hhas, hnone⟩, hsome⟩ | ⟨habove, hinner⟩
  · have hnearest : Nearest t' start directory :=
      ⟨n, hn, (hholds _).2 hhas, fun m hm nearer h => (hholds _).not.2 (hnone m hm nearer h)⟩
    rw [discover_of_nearest hnearest, discover_of_some hsome]
    rfl
  · have habove' : NoneAbove t' start := fun n other h => (hholds _).not.2 (habove n other h)
    rcases discover_of_noneAbove habove' with ⟨name', hinside', hhas', hfound'⟩ | ⟨hnone', hfound'⟩
    · rcases hinner with ⟨name, hin, hhas, hsome⟩ | ⟨hnone, -⟩
      · obtain rfl := hone name name' hin hhas ((hinside _).1 hinside') ((hholds _).1 hhas')
        rw [hfound', discover_of_some hsome]
        rfl
      · exact absurd ((hholds _).1 hhas') (hnone name' ((hinside _).1 hinside'))
    · rcases hinner with ⟨name, hin, hhas, -⟩ | ⟨-, hnone⟩
      · exact absurd ((hholds _).2 hhas) (hnone' name ((hinside _).2 hin))
      · rw [hfound', discover_of_none hnone]

/-- Going up ends, having taken away one component at a time. If a directory on the way
has a settings file, the first of them is found, with what its file sets, and nothing if
that file cannot be read; and then only the files on the way count. If none has, one of
the directories right inside that has a settings file is found in the same way, and the
start, without settings, where there is none. What files hold makes no difference to the
directory. -/
theorem discovery_finds_nearest (t : FileTree) (start : Path) :
    (∃ last, ∀ n, (start.ancestor? n).isSome = true ↔ n ≤ last) ∧
    (∀ n directory, start.ancestor? n = some directory →
      (start.ancestor? (n + 1) = none ∧
        (directory.components = [] ∨ directory.components = [.root])) ∨
      ∃ next last, start.ancestor? (n + 1) = some next ∧
        directory.components = next.components ++ [last] ∧ next.bytes <+: directory.bytes) ∧
    (∀ n directory, start.ancestor? n = some directory → Holds t directory →
      ∃ nearest, Nearest t start nearest ∧ (discover t start).ReadIn t nearest ∧
        ∀ t' : FileTree, (∀ m other, start.ancestor? m = some other →
          t'.find (other.join fileName) = t.find (other.join fileName)) →
            discover t' start = discover t start) ∧
    (NoneAbove t start →
      (∃ name, Inside t start name ∧ Holds t (start.join ⟨name⟩) ∧
        (discover t start).ReadIn t (start.join ⟨name⟩)) ∨
      ((∀ name, Inside t start name → ¬ Holds t (start.join ⟨name⟩)) ∧
        discover t start = { settings := none, directory := start, log := [] })) ∧
    (∀ t', t.SameShape t' → (discover t' start).directory = (discover t start).directory) ∧
    ∀ t' : FileTree, (∀ path, t'.isFile path = t.isFile path) →
      (∀ name, Inside t' start name ↔ Inside t start name) → AtMostOne t start →
        (discover t' start).directory = (discover t start).directory := by
  refine ⟨⟨_, start.isSome_ancestor?_iff⟩, fun n directory h => Path.ancestor?_succ h,
    fun n directory hn hfile => ?_, fun habove => ?_,
    fun t' hshape => directory_of_sameShape hshape start, fun t' => directory_of_sameFiles⟩
  · obtain ⟨nearest, hnearest⟩ := exists_nearest hn hfile
    refine ⟨nearest, hnearest, ?_, fun t' => discover_congr hnearest⟩
    rw [discover_of_nearest hnearest]
    exact readIn_loadFrom t nearest
  · rcases discover_of_noneAbove habove with ⟨name, hinside, hfile, hfound⟩ | hnone
    · exact Or.inl ⟨name, hinside, hfile, hfound ▸ readIn_loadFrom t _⟩
    · exact Or.inr hnone

def settingsText : String := "[retag]\nfile_suffix = \".twig\"\n"

/-- A settings file in a directory, one that is no text right above it, and one above
that. -/
def threeFiles : FileTree :=
  let w := (Path.ofText "w").bytes
  let c := (Path.ofText "c").bytes
  ⟨[([w], .directory), ([w, fileName.bytes], .file ⟨#[0xFF]⟩), ([w, c], .directory),
    ([w, c, fileName.bytes], .file settingsText.toUTF8),
    ([fileName.bytes], .file "[retag]\nadvisory = false\n".toUTF8)]⟩

/-- The one in the directory alone. -/
def innerFile : FileTree :=
  let w := (Path.ofText "w").bytes
  let c := (Path.ofText "c").bytes
  ⟨[([w], .directory), ([w, c], .directory), ([w, c, fileName.bytes], .file settingsText.toUTF8)]⟩

/-- The settings are found from a directory further down that does not exist, and from the
one above if nothing is there. The broken file there hides them and the one at the root. -/
theorem discovery_finds_nearest_among_three :
    let twig : Settings := ⟨some ".twig", none, none, none, none, none, none⟩
    ((discover threeFiles (.ofText "/w")).directory = .ofText "/w" ∧
      (discover threeFiles (.ofText "/w")).settings = none) ∧
    ((discover threeFiles (.ofText "/w/c/d")).directory = .ofText "/w/c" ∧
      (discover threeFiles (.ofText "/w/c/d")).settings = some twig) ∧
    (discover innerFile (.ofText "/w")).directory = .ofText "/w/c" ∧
      (discover innerFile (.ofText "/w")).settings = some twig := by
  intro twig
  have hparse : parse? settingsText = some (some twig) := by decide +kernel
  refine ⟨?_, ?_, ?_⟩
  · have hfile : Holds threeFiles (.ofText "/w") := ⟨⟨#[0xFF]⟩, by cbv⟩
    obtain ⟨-, -, hway, -⟩ := discovery_finds_nearest threeFiles (.ofText "/w")
    obtain ⟨nearest, hnearest, hread, -⟩ := hway 0 _ rfl hfile
    have hw : Nearest threeFiles (.ofText "/w") (.ofText "/w") :=
      ⟨0, rfl, hfile, fun m hm => absurd hm (Nat.not_lt_zero m)⟩
    obtain rfl := hw.unique hnearest
    have htext : threeFiles.readText ((Path.ofText "/w").join fileName) = .error .notText := by cbv
    refine ⟨hread.directory_eq, hread.unreadable fun text h => ?_⟩
    cases htext.symm.trans h
  · have hup : (Path.ofText "/w/c/d").ancestor? 1 = some (.ofText "/w/c") := by cbv
    have hfirst : hasFile threeFiles (.ofText "/w/c/d") = false := by cbv
    have hfile : Holds threeFiles (.ofText "/w/c") := ⟨settingsText.toUTF8, by cbv⟩
    obtain ⟨-, -, hway, -⟩ := discovery_finds_nearest threeFiles (.ofText "/w/c/d")
    obtain ⟨nearest, hnearest, hread, -⟩ := hway 1 _ hup hfile
    have hc : Nearest threeFiles (.ofText "/w/c/d") (.ofText "/w/c") := by
      refine ⟨1, hup, hfile, fun m hm nearer hnearer => ?_⟩
      obtain rfl : m = 0 := Nat.lt_one_iff.1 hm
      obtain rfl := Option.some.inj hnearer
      rw [← hasFile_iff, hfirst]
      exact Bool.false_ne_true
    obtain rfl := hc.unique hnearest
    have htext : threeFiles.readText ((Path.ofText "/w/c").join fileName) = .ok settingsText := by
      cbv
    exact ⟨hread.directory_eq, (hread.readable _ _ htext hparse).1⟩
  · have hparents : (Path.ofText "/w").parents = [.ofText "/"] := by cbv
    have hfirst : hasFile innerFile (.ofText "/w") = false := by cbv
    have hsecond : hasFile innerFile (.ofText "/") = false := by cbv
    have habove : NoneAbove innerFile (.ofText "/w") := by
      intro n directory hn
      rw [Path.ancestor?_eq, hparents] at hn
      rw [← hasFile_iff]
      have hmem := List.mem_of_getElem? hn
      rw [List.mem_cons, List.mem_singleton] at hmem
      rcases hmem with rfl | rfl
      · simp [hfirst]
      · simp [hsecond]
    have hchildren : innerFile.children (.ofText "/w") =
        [((Path.ofText "c").bytes, .directory)] := by
      cbv
    have hpath : (Path.ofText "/w").join (.ofText "c") = .ofText "/w/c" := by cbv
    have hfile : Holds innerFile ((Path.ofText "/w").join (.ofText "c")) :=
      ⟨settingsText.toUTF8, by cbv⟩
    have htext : innerFile.readText ((Path.ofText "/w/c").join fileName) = .ok settingsText := by
      cbv
    obtain ⟨-, -, -, hinner, -⟩ := discovery_finds_nearest innerFile (.ofText "/w")
    rcases hinner habove with ⟨name, hinside, -, hread⟩ | ⟨hnone, -⟩
    · rw [inside_iff, hchildren, List.mem_singleton] at hinside
      rw [(Prod.mk.inj hinside).1] at hread
      change Found.ReadIn _ _ ((Path.ofText "/w").join (.ofText "c")) at hread
      rw [hpath] at hread
      exact ⟨hread.directory_eq, (hread.readable _ _ htext hparse).1⟩
    · refine absurd hfile (hnone (Path.ofText "c").bytes ?_)
      rw [inside_iff, hchildren]
      exact List.mem_singleton_self _

end Settings

end Bilingual
