import Mathlib.Data.List.Induction
import Bilingual.Path

/-!
The directories above a path, one from the other. What is right above a path is a
beginning of it and has all its components but the last.
-/

namespace Bilingual

theorem Text.split_eq_splitOnP {α : Type} (isSeparator : α → Bool) (cs : List α) :
    split isSeparator cs = cs.splitOnP isSeparator := by
  induction cs with
  | nil => rfl
  | cons c cs ih =>
      rw [split, List.splitOnP_cons_eq_if_modifyHead, ih]
      split
      · rfl
      · cases hcs : cs.splitOnP isSeparator with
        | nil => exact absurd hcs (List.splitOnP_ne_nil _ _)
        | cons piece pieces => rfl

namespace Path

/-- Parts of a path, as far as they tell paths apart. -/
inductive Component
  | root
  /-- The dot in front of a relative path. -/
  | here
  | name (name : Name)
  deriving DecidableEq

/-- Names that lead somewhere. -/
def solid (names : List Name) : List Name := names.filter (!isIdle ·)

def components (p : Path) : List Component :=
  if p.isAbsolute then .root :: (solid p.names.tail).map .name
  else if p.names.head? = some here then .here :: (solid p.names.tail).map .name
  else (solid p.names).map .name

/-- The path `p` is right below `q`. -/
structure IsBelow (p q : Path) : Prop where
  parents : p.parents = q :: q.parents
  starts : q.bytes <+: p.bytes
  components : ∃ last, p.components = q.components ++ [last]
  /-- Behind a root there is an empty name. -/
  names : ∃ front rest, p.names = front ++ rest ∧ rest ≠ [] ∧
    (q.names = front ∨ q.names = front ++ [[]])

variable {p q : Path} {bytes : List UInt8} {name : Name} {ns front rest : List Name}

theorem names_eq_splitOn (p : Path) : p.names = p.bytes.splitOn slash :=
  Text.split_eq_splitOnP _ _

theorem names_ne_nil (p : Path) : p.names ≠ [] := by
  rw [names_eq_splitOn]
  exact List.splitOn_ne_nil _ _

theorem ofNames_names (p : Path) : ofNames p.names = p := by
  rw [ofNames, names_eq_splitOn, List.intercalate_splitOn]

/-- No name holds a slash. -/
def Whole (ns : List Name) : Prop := ∀ name ∈ ns, slash ∉ name

theorem whole_names (p : Path) : Whole p.names := by
  obtain ⟨bytes⟩ := p
  unfold names
  induction bytes with
  | nil =>
      intro name h
      obtain rfl := List.mem_singleton.1 h
      exact List.not_mem_nil
  | cons byte bytes ih =>
      simp only [Text.split]
      split
      · exact List.forall_mem_cons.2 ⟨List.not_mem_nil, ih⟩
      · next hbyte =>
          have hne : slash ≠ byte := fun heq => hbyte (decide_eq_true heq.symm)
          split
          · exact List.forall_mem_cons.2 ⟨by simpa using hne, by simp⟩
          · next piece pieces heq =>
              rw [heq] at ih
              obtain ⟨hpiece, hpieces⟩ := List.forall_mem_cons.1 ih
              exact List.forall_mem_cons.2 ⟨by simpa using ⟨hne, hpiece⟩, hpieces⟩

theorem Whole.left (h : Whole (front ++ rest)) : Whole front :=
  fun name hname => h name (List.mem_append_left _ hname)

theorem names_ofNames (h : Whole ns) (hne : ns ≠ []) : (ofNames ns).names = ns := by
  rw [names_eq_splitOn]
  exact List.splitOn_intercalate slash h hne

theorem parents_nil : (⟨[]⟩ : Path).parents = [] := rfl

theorem names_slash (bytes : List UInt8) :
    (⟨slash :: bytes⟩ : Path).names = [] :: (⟨bytes⟩ : Path).names := rfl

theorem isAbsolute_iff : p.isAbsolute = true ↔ ∃ bytes, p = ⟨slash :: bytes⟩ := by
  obtain ⟨_ | ⟨byte, bytes⟩⟩ := p
  · simp [isAbsolute]
  · simp [isAbsolute]

theorem ofNames_singleton (name : Name) : ofNames [name] = ⟨name⟩ := by
  unfold ofNames
  rw [List.intercalate_singleton]

theorem ofNames_cons (name : Name) (h : ns ≠ []) :
    (ofNames (name :: ns)).bytes = name ++ slash :: (ofNames ns).bytes := by
  unfold ofNames
  rw [List.intercalate_cons_of_ne_nil h]
  simp

theorem ofNames_prefix (front rest : List Name) :
    (ofNames front).bytes <+: (ofNames (front ++ rest)).bytes := by
  induction front with
  | nil => exact List.nil_prefix
  | cons name front ih =>
      rw [List.cons_append]
      by_cases hfront : front = []
      · subst hfront
        by_cases hrest : rest = []
        · simp [hrest]
        · rw [List.nil_append, ofNames_cons name hrest, ofNames_singleton]
          exact List.prefix_append name _
      · have hmore : front ++ rest ≠ [] := List.append_ne_nil_of_left_ne_nil hfront rest
        rw [ofNames_cons name hfront, ofNames_cons name hmore,
          List.prefix_append_right_inj, List.prefix_cons_inj]
        exact ih

theorem above_dropWhile (reversed : List Name) :
    above (reversed.dropWhile isIdle) = above reversed := by
  induction reversed with
  | nil => rfl
  | cons name before ih =>
      rw [List.dropWhile_cons, above]
      split
      · exact ih
      · next h => rw [above, if_neg h]

theorem solid_append (front rest : List Name) : solid (front ++ rest) = solid front ++ solid rest :=
  List.filter_append ..

theorem solid_eq_nil (h : ∀ name ∈ ns, isIdle name = true) : solid ns = [] :=
  List.filter_eq_nil_iff.2 fun name hname => by simp [h name hname]

/-- What is above the last of some names, if one of them leads somewhere. -/
theorem above_cases (ns : List Name) :
    (above ns.reverse = [] ∧ solid ns = []) ∨
      ∃ front rest last, ns = front ++ rest ∧ rest ≠ [] ∧ solid ns = solid front ++ [last] ∧
        above ns.reverse = front.reverse :: above front.reverse := by
  induction ns using List.reverseRecOn with
  | nil => exact Or.inl ⟨rfl, rfl⟩
  | append_singleton ns name ih =>
      rw [List.reverse_append, List.reverse_singleton, List.singleton_append, above, solid_append]
      by_cases hidle : isIdle name = true
      · have hname : solid [name] = [] := by simp [solid, hidle]
        rw [if_pos hidle, hname, List.append_nil]
        rcases ih with hnone | ⟨front, rest, last, rfl, -, hsolid, habove⟩
        · exact Or.inl hnone
        · exact Or.inr ⟨front, rest ++ [name], last, by simp, by simp, hsolid, habove⟩
      · have hname : solid [name] = [name] := by simp [solid, hidle]
        have hsplit : ns = (ns.reverse.dropWhile isIdle).reverse ++
            (ns.reverse.takeWhile isIdle).reverse := by
          rw [← List.reverse_append, List.takeWhile_append_dropWhile, List.reverse_reverse]
        have hsolid : solid ns = solid (ns.reverse.dropWhile isIdle).reverse := by
          have hidles : solid (ns.reverse.takeWhile isIdle).reverse = [] :=
            solid_eq_nil fun other hother =>
              List.all_eq_true.1 List.all_takeWhile other (List.mem_reverse.1 hother)
          conv => lhs; rw [hsplit, solid_append, hidles, List.append_nil]
        rw [if_neg hidle, hname, hsolid]
        refine Or.inr
          ⟨_, (ns.reverse.takeWhile isIdle).reverse ++ [name], name, ?_, by simp, rfl, ?_⟩
        · rw [← List.append_assoc, ← hsplit]
        · rw [List.reverse_reverse, above_dropWhile]

theorem above_names_ofNames (h : Whole ns) :
    above (ofNames ns).names.reverse = above ns.reverse := by
  by_cases hne : ns = []
  · rw [hne]
    rfl
  · rw [names_ofNames h hne]

theorem solid_names_ofNames (h : Whole ns) : solid (ofNames ns).names = solid ns := by
  by_cases hne : ns = []
  · rw [hne]
    rfl
  · rw [names_ofNames h hne]

theorem names_ofNames_or (h : Whole ns) :
    (ofNames ns).names = ns ∨ (ofNames ns).names = ns ++ [[]] := by
  by_cases hne : ns = []
  · rw [hne]
    exact Or.inr rfl
  · exact Or.inl (names_ofNames h hne)

theorem parents_slash (bytes : List UInt8) :
    (⟨slash :: bytes⟩ : Path).parents =
      (above (⟨bytes⟩ : Path).names.reverse).map fun ns => ⟨slash :: (ofNames ns.reverse).bytes⟩ :=
  rfl

theorem components_slash (bytes : List UInt8) :
    (⟨slash :: bytes⟩ : Path).components = .root :: (solid (⟨bytes⟩ : Path).names).map .name :=
  rfl

/-- A path that begins with a slash has another path behind it. -/
theorem cases_slash (p : Path) :
    ((⟨slash :: p.bytes⟩ : Path).parents = [] ∧
      (⟨slash :: p.bytes⟩ : Path).components = [.root]) ∨
      ∃ q, IsBelow ⟨slash :: p.bytes⟩ q := by
  have hwhole := whole_names p
  have hp := ofNames_names p
  rw [parents_slash, components_slash]
  rcases above_cases p.names with
    ⟨habove, hsolid⟩ | ⟨front, rest, last, hnames, hrest, hsolid, habove⟩
  · exact Or.inl ⟨by rw [habove]; rfl, by rw [hsolid]; rfl⟩
  · rw [hnames] at hwhole hp
    refine Or.inr ⟨⟨slash :: (ofNames front).bytes⟩, ?_, ?_, ⟨.name last, ?_⟩,
      [] :: front, rest, ?_, hrest, ?_⟩
    · rw [parents_slash, parents_slash, above_names_ofNames hwhole.left, habove, List.map_cons,
        List.reverse_reverse]
    · exact (List.prefix_cons_inj slash).2 (hp ▸ ofNames_prefix front rest)
    · rw [components_slash, components_slash, solid_names_ofNames hwhole.left, hsolid]
      simp
    · rw [names_slash, hnames, List.cons_append]
    · rw [names_slash]
      exact (names_ofNames_or hwhole.left).imp (congrArg _) (congrArg _)

theorem relative_of_starts (h : q.bytes <+: p.bytes) (hp : p.isAbsolute = false) :
    q.isAbsolute = false := by
  rw [Bool.eq_false_iff] at hp ⊢
  intro hq
  obtain ⟨bytes, rfl⟩ := isAbsolute_iff.1 hq
  obtain ⟨more, hmore⟩ := h
  exact hp (isAbsolute_iff.2 ⟨bytes ++ more, congrArg Path.mk hmore.symm⟩)

theorem parents_here (hp : p.isAbsolute = false) (hnames : p.names = here :: ns) :
    p.parents =
      (above ns.reverse).map (fun names => ofNames (here :: names.reverse)) ++ [⟨[]⟩] := by
  simp only [parents, hp, hnames, List.head?_cons, List.tail_cons, Bool.false_eq_true, if_false,
    if_true]

theorem components_here (hp : p.isAbsolute = false) (hnames : p.names = here :: ns) :
    p.components = .here :: (solid ns).map .name := by
  simp only [components, hp, hnames, List.head?_cons, List.tail_cons, Bool.false_eq_true, if_false,
    if_true]

theorem exists_isBelow_here (hp : p.isAbsolute = false) (hnames : p.names = here :: ns) :
    ∃ q, IsBelow p q := by
  have hwhole := whole_names p
  have hofNames := ofNames_names p
  rcases above_cases ns with ⟨habove, hsolid⟩ | ⟨front, rest, last, rfl, hrest, hsolid, habove⟩
  · refine ⟨⟨[]⟩, ?_, List.nil_prefix, ⟨.here, ?_⟩, [], p.names, rfl, names_ne_nil p, Or.inr rfl⟩
    · rw [parents_here hp hnames, habove]
      rfl
    · rw [components_here hp hnames, hsolid]
      rfl
  · rw [hnames, ← List.cons_append] at hwhole hofNames
    have hstarts : (ofNames (here :: front)).bytes <+: p.bytes :=
      hofNames ▸ ofNames_prefix (here :: front) rest
    have hq := relative_of_starts hstarts hp
    have hqnames := names_ofNames hwhole.left (List.cons_ne_nil here front)
    refine ⟨ofNames (here :: front), ?_, hstarts, ⟨.name last, ?_⟩, here :: front, rest, hnames,
      hrest, Or.inl hqnames⟩
    · rw [parents_here hp hnames, parents_here hq hqnames, habove, List.map_cons,
        List.reverse_reverse, List.cons_append]
    · rw [components_here hp hnames, components_here hq hqnames, hsolid]
      simp

theorem parents_plain (hp : p.isAbsolute = false) (hhere : p.names.head? ≠ some here) :
    p.parents = (above p.names.reverse).map fun names => ofNames names.reverse := by
  simp only [parents, hp, hhere, Bool.false_eq_true, if_false]

theorem components_plain (hp : p.isAbsolute = false) (hhere : p.names.head? ≠ some here) :
    p.components = (solid p.names).map .name := by
  simp only [components, hp, hhere, Bool.false_eq_true, if_false]

theorem cases_plain (hp : p.isAbsolute = false) (hhere : p.names.head? ≠ some here) :
    (p.parents = [] ∧ p.components = []) ∨ ∃ q, IsBelow p q := by
  have hwhole := whole_names p
  have hofNames := ofNames_names p
  rcases above_cases p.names with
    ⟨habove, hsolid⟩ | ⟨front, rest, last, hnames, hrest, hsolid, habove⟩
  · left
    rw [parents_plain hp hhere, components_plain hp hhere, habove, hsolid]
    exact ⟨rfl, rfl⟩
  · rw [hnames] at hwhole hofNames
    have hstarts : (ofNames front).bytes <+: p.bytes := hofNames ▸ ofNames_prefix front rest
    have hq := relative_of_starts hstarts hp
    have hqhere : (ofNames front).names.head? ≠ some here := by
      cases front with
      | nil => decide
      | cons name front =>
          rw [names_ofNames hwhole.left (List.cons_ne_nil name front)]
          rwa [hnames] at hhere
    refine Or.inr ⟨ofNames front, ?_, hstarts, ⟨.name last, ?_⟩, front, rest, hnames, hrest,
      names_ofNames_or hwhole.left⟩
    · rw [parents_plain hp hhere, parents_plain hq hqhere, habove, above_names_ofNames hwhole.left,
        List.map_cons, List.reverse_reverse]
    · rw [components_plain hp hhere, components_plain hq hqhere, hsolid,
        solid_names_ofNames hwhole.left]
      simp

/-- A path has nothing above it only if it is empty or stands for the root. -/
theorem parents_cases (p : Path) :
    (p.parents = [] ∧ (p.components = [] ∨ p.components = [.root])) ∨ ∃ q, IsBelow p q := by
  cases hp : p.isAbsolute with
  | true =>
      obtain ⟨bytes, rfl⟩ := isAbsolute_iff.1 hp
      exact (cases_slash ⟨bytes⟩).imp_left fun ⟨hparents, hcomponents⟩ =>
        ⟨hparents, Or.inr hcomponents⟩
  | false =>
      by_cases hhere : p.names.head? = some here
      · obtain ⟨ns, hnames⟩ := List.head?_eq_some_iff.1 hhere
        exact Or.inr (exists_isBelow_here hp hnames)
      · exact (cases_plain hp hhere).imp_left fun ⟨hparents, hcomponents⟩ =>
          ⟨hparents, Or.inl hcomponents⟩

example : (⟨[0x2E, slash, 0x61]⟩ : Path).parents = [⟨here⟩, ⟨[]⟩] := by decide

theorem IsBelow.parent?_eq (h : IsBelow p q) : p.parent? = some q := by
  rw [parent?, h.parents]
  rfl

theorem isBelow_of_parent? (h : p.parent? = some q) : IsBelow p q := by
  rcases parents_cases p with ⟨hparents, -⟩ | ⟨q', h'⟩
  · rw [parent?, hparents] at h
    cases h
  · rw [h'.parent?_eq] at h
    exact Option.some.inj h ▸ h'

end Path

end Bilingual
