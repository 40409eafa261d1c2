import Mathlib.Data.List.Nodup
import Mathlib.Logic.Relation
import Bilingual.Json

/-!
Ways to write the same records. The members of an object may stand in any order and
among others, and a record may be the array of its members instead, at any depth. A
record is read alike however it is written.
-/

namespace Bilingual.Json

/-- Where a value holds records and lists. -/
inductive Form
  | any
  | record (members : List (String × Form))
  | list (items : Form)

/-- One record within a value is written in another way. -/
inductive Rewrite : Form → Json → Json → Prop
  /-- The names of an object differ, as they do in every JSON value in memory. -/
  | permute {members : List (String × Form)} {given given' : List (String × Json)} :
      given.Perm given' → (given.map Prod.fst).Nodup →
      Rewrite (.record members) (.object given) (.object given')
  | unknown {members : List (String × Form)} {name : String} {before after : List (String × Json)}
      (j : Json) : name ∉ members.map Prod.fst →
      Rewrite (.record members) (.object (before ++ after)) (.object (before ++ (name, j) :: after))
  | spread {members : List (String × Form)} {given : List (String × Json)} {items : List Json} :
      members.map (fun m => given.lookup m.1) = items.map some →
      Rewrite (.record members) (.object given) (.array items)
  | member {members : List (String × Form)} {name : String} {form : Form} {j j' : Json}
      {before after : List (String × Json)} : (name, form) ∈ members → Rewrite form j j' →
      Rewrite (.record members) (.object (before ++ (name, j) :: after))
        (.object (before ++ (name, j') :: after))
  | place {front back : List (String × Form)} {name : String} {form : Form} {j j' : Json}
      {before after : List Json} : before.length = front.length → after.length = back.length →
      Rewrite form j j' →
      Rewrite (.record (front ++ (name, form) :: back)) (.array (before ++ j :: after))
        (.array (before ++ j' :: after))
  | item {form : Form} {j j' : Json} {before after : List Json} : Rewrite form j j' →
      Rewrite (.list form) (.array (before ++ j :: after)) (.array (before ++ j' :: after))

/-- Values that are written alike but for their records: one can be got from the other
by rewriting records one by one, forth or back. -/
abbrev SameRecords (form : Form) : Json → Json → Prop := Relation.EqvGen (Rewrite form)

/-- A reader that makes nothing of how records are written. -/
def Respects {α : Type} (form : Form) (read : Json → Option α) : Prop :=
  ∀ j j', Rewrite form j j' → read j = read j'

/-- A member of a record before and after a rewrite. -/
inductive Alike (form : Form) : Option Json → Option Json → Prop
  | same (member : Option Json) : Alike form member member
  | rewritten {j j' : Json} : Rewrite form j j' → Alike form (some j) (some j')

/-- The members of a record before and after a rewrite. -/
inductive AllAlike : List (String × Form) → List (Option Json) → List (Option Json) → Prop
  | nil : AllAlike [] [] []
  | cons {name : String} {form : Form} {members : List (String × Form)} {x x' : Option Json}
      {xs xs' : List (Option Json)} : Alike form x x' → AllAlike members xs xs' →
      AllAlike ((name, form) :: members) (x :: xs) (x' :: xs')

variable {α : Type} {form : Form} {read : Json → Option α} {members : List (String × Form)}
  {j j' : Json}

theorem Respects.eq_of_sameRecords (h : Respects form read) (hsame : SameRecords form j j') :
    read j = read j' := by
  induction hsame with
  | rel j j' hrewrite => exact h j j' hrewrite
  | refl j => rfl
  | symm j j' _ ih => exact ih.symm
  | trans j j' j'' _ _ ih ih' => exact ih.trans ih'

theorem respects_any (read : Json → Option α) : Respects .any read := nofun

theorem Respects.required_eq (h : Respects form read) {x x' : Option Json}
    (halike : Alike form x x') : required read x = required read x' := by
  cases halike with
  | same => rfl
  | rewritten hrewrite => exact h _ _ hrewrite

theorem Respects.list (h : Respects form read) : Respects (.list form) (list? read) := by
  rintro _ _ ⟨⟩
  next hrewrite =>
    simp only [list?, array?, bind, Option.bind_some, List.mapM_append, List.mapM_cons,
      h _ _ hrewrite]

namespace AllAlike

theorem of_map {f g : String × Form → Option Json} (h : ∀ m ∈ members, Alike m.2 (f m) (g m)) :
    AllAlike members (members.map f) (members.map g) := by
  induction members with
  | nil => exact .nil
  | cons m members ih =>
      exact .cons (h m List.mem_cons_self) (ih fun m' hm => h m' (List.mem_cons_of_mem _ hm))

theorem same {xs : List (Option Json)} (h : members.length = xs.length) :
    AllAlike members xs xs := by
  induction members generalizing xs with
  | nil => exact List.length_eq_zero_iff.1 h.symm ▸ .nil
  | cons m members ih =>
      obtain ⟨x, xs, rfl⟩ := List.exists_cons_of_length_eq_add_one h.symm
      exact .cons (.same x) (ih (Nat.succ.inj h))

theorem append {front back : List (String × Form)} {xs xs' ys ys' : List (Option Json)}
    (h : AllAlike front xs xs') (h' : AllAlike back ys ys') :
    AllAlike (front ++ back) (xs ++ ys) (xs' ++ ys') := by
  induction h with
  | nil => exact h'
  | cons hx _ ih => exact .cons hx ih

end AllAlike

theorem lookup_eq_some_of_mem {given : List (String × Json)} (hnodup : (given.map Prod.fst).Nodup)
    {name : String} (hmem : (name, j) ∈ given) : given.lookup name = some j := by
  obtain ⟨before, after, rfl⟩ := List.append_of_mem hmem
  rw [List.map_append, List.map_cons, List.nodup_append] at hnodup
  have hbefore : before.lookup name = none := by
    rw [List.lookup_eq_none_iff]
    intro p hp
    have hne := hnodup.2.2 p.1 (List.mem_map_of_mem hp) name List.mem_cons_self
    simpa using Ne.symm hne
  simp [List.lookup_append, hbefore]

/-- An object that is made of members with differing names has these members. -/
theorem record?_zip (names : List String) (values : List Json) (hnodup : names.Nodup)
    (hlength : names.length = values.length) :
    (Json.object (names.zip values)).record? names = some (values.map some) := by
  have hnames : (names.zip values).map Prod.fst = names := List.map_fst_zip (Nat.le_of_eq hlength)
  have hvalues : (names.zip values).map Prod.snd = values :=
    List.map_snd_zip (Nat.le_of_eq hlength.symm)
  have hlookup : ∀ m ∈ names.zip values, (names.zip values).lookup m.1 = some m.2 :=
    fun m hm => lookup_eq_some_of_mem (hnames.symm ▸ hnodup) hm
  calc (Json.object (names.zip values)).record? names
      = some (((names.zip values).map Prod.fst).map fun name => (names.zip values).lookup name) := by
        rw [record?, hnames]
    _ = some ((names.zip values).map fun m => some m.2) := by
        rw [List.map_map]
        exact congrArg some (List.map_congr_left hlookup)
    _ = some (values.map some) := by
        rw [← hvalues, List.map_map, hvalues]
        rfl

/-- The order of differing names makes no difference to what they stand for. -/
theorem lookup_eq_of_perm {given given' : List (String × Json)} (h : given.Perm given')
    (hnodup : (given.map Prod.fst).Nodup) (name : String) :
    given.lookup name = given'.lookup name := by
  have hnodup' : (given'.map Prod.fst).Nodup := (h.map Prod.fst).nodup_iff.1 hnodup
  cases hname : given.lookup name with
  | none =>
      rw [List.lookup_eq_none_iff] at hname
      exact (List.lookup_eq_none_iff.2 fun p hp => hname p (h.mem_iff.2 hp)).symm
  | some j =>
      obtain ⟨before, after, rfl, -⟩ := List.lookup_eq_some_iff.1 hname
      exact (lookup_eq_some_of_mem hnodup' (h.mem_iff.1 (by simp))).symm

theorem alike_of_object {name : String} {form : Form} (hnames : (members.map Prod.fst).Nodup)
    (hmem : (name, form) ∈ members) (hrewrite : Rewrite form j j')
    (before after : List (String × Json)) {m : String × Form} (hm : m ∈ members) :
    Alike m.2 ((before ++ (name, j) :: after).lookup m.1)
      ((before ++ (name, j') :: after).lookup m.1) := by
  rw [List.lookup_append, List.lookup_append]
  cases hbefore : before.lookup m.1 with
  | some x => exact .same _
  | none =>
      by_cases heq : m.1 = name
      · obtain rfl : m = (name, form) := List.inj_on_of_nodup_map hnames hm hmem heq
        simpa using Alike.rewritten hrewrite
      · have hne : (m.1 == name) = false := by simpa using heq
        simpa [List.lookup_cons, hne] using Alike.same _

/-- However a record is written, its members are found, and none but the rewritten one
differs. -/
theorem record?_of_rewrite (hnames : (members.map Prod.fst).Nodup)
    (h : Rewrite (.record members) j j') :
    ∃ xs xs', j.record? (members.map Prod.fst) = some xs ∧
      j'.record? (members.map Prod.fst) = some xs' ∧ AllAlike members xs xs' := by
  have hobject (given : List (String × Json)) :
      (Json.object given).record? (members.map Prod.fst) =
        some (members.map fun m => given.lookup m.1) := by
    simp [record?]
  have harray {items : List Json} (hlength : items.length = members.length) :
      (Json.array items).record? (members.map Prod.fst) = some (items.map some) := by
    simp [record?, hlength]
  cases h with
  | permute hperm hnodup =>
      refine ⟨_, _, hobject _, hobject _, .of_map fun m _ => ?_⟩
      rw [lookup_eq_of_perm hperm hnodup]
      exact .same _
  | @unknown _ name before after j hunknown =>
      refine ⟨_, _, hobject _, hobject _, .of_map fun m hm => ?_⟩
      have hne : (m.1 == name) = false := by
        simpa using fun heq : m.1 = name => hunknown (heq ▸ List.mem_map_of_mem hm)
      rw [List.lookup_append, List.lookup_append, List.lookup_cons, hne]
      exact .same _
  | spread hitems =>
      have hlength := congrArg List.length hitems
      simp only [List.length_map] at hlength
      exact ⟨_, _, hobject _, harray hlength.symm, hitems ▸ .same (by simp)⟩
  | member hmem hrewrite =>
      exact ⟨_, _, hobject _, hobject _,
        .of_map fun m hm => alike_of_object hnames hmem hrewrite _ _ hm⟩
  | @place front back name form j j' before after hbefore hafter hrewrite =>
      refine ⟨_, _, harray (by simp [hbefore, hafter]), harray (by simp [hbefore, hafter]), ?_⟩
      rw [List.map_append, List.map_append, List.map_cons, List.map_cons]
      exact .append (.same (by simp [hbefore]))
        (.cons (.rewritten hrewrite) (.same (by simp [hafter])))

end Bilingual.Json
