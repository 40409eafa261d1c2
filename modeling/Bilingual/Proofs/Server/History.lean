import Mathlib.Data.List.Basic
import Mathlib.Data.List.Induction
import Bilingual.Server

/-!
What the reports so far say about the documents that are open. A report that
opens or changes a document carries a state of it, which stands until the
document is closed.
-/

namespace Bilingual

/-- The state of a document that a report carries. -/
def Notice.document? : Notice → Option Document
  | .opened d => some (.ofText d.uri d.version d.text)
  | .changed d => d.texts.head?.map (.ofText d.uri d.version)
  | _ => none

/-- The latest state of a document behind one more report. -/
def Notice.update (uri : Uri) (latest : Option Document) (n : Notice) : Option Document :=
  if n = .closed uri then none else (n.document?.filter (·.uri = uri)).or latest

/-- The state of a document that is looked after and open. -/
def openDocument? (config : Config) (uri : Uri) (ns : List Notice) : Option Document :=
  if config.covers uri then ns.foldl (Notice.update uri) none else none

/-- The document was in that state at some time, and has not been closed since. -/
def Standing (ns : List Notice) (d : Document) : Prop :=
  ∃ before n later, ns = before ++ n :: later ∧ n.document? = some d ∧ Notice.closed d.uri ∉ later

/-- While a document stays open, states of one version have one text. -/
def Disciplined (ns : List Notice) : Prop :=
  ∀ before n between n' later d d',
    ns = before ++ n :: (between ++ n' :: later) → Notice.closed d.uri ∉ between →
    n.document? = some d → n'.document? = some d' →
    d.uri = d'.uri → d.version = d'.version → d.text = d'.text

/-- A list with one more element is split at that element or before. -/
theorem exists_split_concat_iff {α : Type} {xs : List α} {x : α}
    {p : List α → α → List α → Prop} :
    (∃ before y later, xs ++ [x] = before ++ y :: later ∧ p before y later) ↔
      (∃ before y later, xs = before ++ y :: later ∧ p before y (later ++ [x])) ∨ p xs x [] := by
  constructor
  · rintro ⟨before, y, later, heq, hp⟩
    rcases List.eq_nil_or_concat' later with rfl | ⟨later, z, rfl⟩
    · obtain ⟨rfl, hlast⟩ := List.append_inj' heq rfl
      cases hlast
      exact Or.inr hp
    · rw [← List.cons_append, ← List.append_assoc] at heq
      obtain ⟨rfl, hlast⟩ := List.append_inj' heq rfl
      cases hlast
      exact Or.inl ⟨before, y, later, rfl, hp⟩
  · rintro (⟨before, y, later, rfl, hp⟩ | hp)
    · exact ⟨before, y, later ++ [x], by simp, hp⟩
    · exact ⟨xs, x, [], rfl, hp⟩

variable {config : Config} {ns : List Notice} {n : Notice} {d d' : Document}

theorem openDocument?_concat (config : Config) (uri : Uri) (ns : List Notice) (n : Notice) :
    openDocument? config uri (ns ++ [n]) =
      if config.covers uri then n.update uri (openDocument? config uri ns) else none := by
  unfold openDocument?
  split
  · rw [List.foldl_append]
    rfl
  · rfl

theorem openDocument?_of_document (h : n.document? = some d) (uri : Uri) :
    openDocument? config uri (ns ++ [n]) =
      if config.covers uri ∧ d.uri = uri then some d else openDocument? config uri ns := by
  have hclosed : n ≠ .closed uri := by
    rintro rfl
    cases h
  rw [openDocument?_concat, Notice.update, if_neg hclosed, h]
  by_cases hcovers : config.covers uri
  · by_cases huri : d.uri = uri <;> simp [hcovers, huri, Option.filter]
  · simp [hcovers, openDocument?]

theorem openDocument?_of_closed (closed uri : Uri) :
    openDocument? config uri (ns ++ [.closed closed]) =
      if closed = uri then none else openDocument? config uri ns := by
  rw [openDocument?_concat, Notice.update]
  by_cases hcovers : config.covers uri
  · by_cases huri : closed = uri <;> simp [hcovers, huri, Notice.document?]
  · simp [hcovers, openDocument?]

/-- A report that neither carries nor closes a document that is looked after. -/
theorem openDocument?_of_neither (hdocument : n.document? = none)
    (hclosed : ∀ uri, config.covers uri → n ≠ .closed uri) (uri : Uri) :
    openDocument? config uri (ns ++ [n]) = openDocument? config uri ns := by
  rw [openDocument?_concat, Notice.update, hdocument]
  by_cases hcovers : config.covers uri
  · simp [hcovers, hclosed uri hcovers]
  · simp [hcovers, openDocument?]

theorem standing_concat (h : n.document? = some d) : Standing (ns ++ [n]) d :=
  ⟨ns, n, [], rfl, h, List.not_mem_nil⟩

theorem Standing.concat (h : Standing ns d) (hn : n ≠ .closed d.uri) : Standing (ns ++ [n]) d := by
  obtain ⟨before, m, later, rfl, hm, hlater⟩ := h
  refine ⟨before, m, later ++ [n], by simp, hm, ?_⟩
  rw [List.mem_append, List.mem_singleton]
  rintro (hmem | heq)
  · exact hlater hmem
  · exact hn heq.symm

/-- The state of an open document stands. -/
theorem standing_of_open {uri : Uri} (h : openDocument? config uri ns = some d) :
    config.covers uri ∧ d.uri = uri ∧ Standing ns d := by
  induction ns using List.reverseRecOn generalizing d with
  | nil => simp [openDocument?] at h
  | append_singleton ns n ih =>
      rw [openDocument?_concat] at h
      by_cases hcovers : config.covers uri
      · rw [if_pos hcovers, Notice.update] at h
        split at h
        · cases h
        · next hclosed =>
            rcases Option.or_eq_some_iff.1 h with hnew | ⟨-, hold⟩
            · obtain ⟨hn, huri⟩ := Option.filter_eq_some_iff.1 hnew
              exact ⟨hcovers, by simpa using huri, standing_concat hn⟩
            · obtain ⟨-, huri, hstanding⟩ := ih hold
              exact ⟨hcovers, huri, hstanding.concat (huri ▸ hclosed)⟩
      · rw [if_neg hcovers] at h
        cases h

/-- In a disciplined run a version tells the text, as long as the state stands. -/
theorem Standing.text_eq (hd : Disciplined ns) (h : Standing ns d) (h' : Standing ns d')
    (huri : d.uri = d'.uri) (hversion : d.version = d'.version) : d.text = d'.text := by
  obtain ⟨before, n, later, heq, hn, hlater⟩ := h
  obtain ⟨before', n', later', heq', hn', hlater'⟩ := h'
  rcases List.append_eq_append_iff.1 (heq.symm.trans heq') with
    ⟨between, hbefore, hrest⟩ | ⟨between, hbefore, hrest⟩
  · cases between with
    | nil =>
        obtain ⟨rfl, -⟩ := List.cons.inj hrest
        cases hn.symm.trans hn'
        rfl
    | cons m between =>
        obtain ⟨rfl, rfl⟩ := List.cons.inj hrest
        exact hd before n between n' later' d d' heq (fun hmem => hlater (by simp [hmem])) hn hn'
          huri hversion
  · cases between with
    | nil =>
        obtain ⟨rfl, -⟩ := List.cons.inj hrest
        cases hn.symm.trans hn'
        rfl
    | cons m between =>
        obtain ⟨rfl, rfl⟩ := List.cons.inj hrest
        exact (hd before' n' between n later d' d heq' (fun hmem => hlater' (by simp [hmem])) hn' hn
          huri.symm hversion.symm).symm

theorem Disciplined.before {more : List Notice} (h : Disciplined (ns ++ more)) :
    Disciplined ns := by
  rintro before n between n' later d d' rfl
  exact h before n between n' (later ++ more) d d' (by simp)

/-- A run is disciplined if the text follows from the document and its version. -/
theorem disciplined_of_texts (texts : Uri → Int32 → String)
    (h : ∀ d ∈ ns.filterMap Notice.document?, d.text = texts d.uri d.version) :
    Disciplined ns := by
  rintro before n between n' later d d' rfl - hn hn' huri hversion
  rw [h d (List.mem_filterMap.2 ⟨n, by simp, hn⟩), h d' (List.mem_filterMap.2 ⟨n', by simp, hn'⟩),
    huri, hversion]

end Bilingual
