import Bilingual.Proofs.Cache.Recency
import Bilingual.Proofs.Reaction.Decision

/-!
Runs of reactions on one cache. What they do to it is what a run of requests to the
cache does, and the language that each asks for follows from the regions found. A
viewport asks the cache first and only then finds out whether it can decide.
-/

namespace Bilingual

/-- What a reaction is to. -/
inductive Cause
  | cursor (d : Document) (offset : Nat)
  | viewport (d : Document) (visible : List ByteRange) (offset : Option Nat)
  | closing (document : Uri)
  | ending

namespace Cause

def reaction (scan : Finder) (cache : Cache) : Cause → Reaction
  | .cursor d offset => .toCursor scan cache d offset
  | .viewport d visible offset => .toViewport scan cache d visible offset
  | .closing document => .toClosing cache document
  | .ending => .toEnd cache

/-- The reactions to some causes, one after another. -/
def reactions (scan : Finder) : Cache → List Cause → List (Cause × Reaction)
  | _, [] => []
  | cache, cause :: causes =>
      (cause, cause.reaction scan cache) ::
        reactions scan (cause.reaction scan cache).cache causes

/-- The cache behind them. -/
def after (scan : Finder) : Cache → List Cause → Cache
  | cache, [] => cache
  | cache, cause :: causes => after scan (cause.reaction scan cache).cache causes

/-- What a reaction asks the cache for. A viewport without ranges asks for nothing. -/
def requests : Cause → List Cache.Request
  | .cursor d _ => [.lookUp d.uri d.version d.text]
  | .viewport d visible _ => if visible = [] then [] else [.lookUp d.uri d.version d.text]
  | .closing document => [.forget document]
  | .ending => [.forgetAll]

def document? : Cause → Option Uri
  | .cursor d _ => some d.uri
  | .viewport d _ _ => some d.uri
  | .closing document => some document
  | .ending => none

/-- A language is settled on as the pure decision has it, on the regions found. Without a
cursor that is the language for every cursor, unless both are visible. -/
def Settles (found : Document → List Region) (tag : Option Tag) : Cause → Prop
  | .cursor d offset => tag = some (.atCursor (found d) offset)
  | .viewport d visible (some offset) =>
      tag = if visible = [] then none else some (.inView (found d) visible offset)
  | .viewport d visible none =>
      if visible = [] ∨ (View.ofRanges (found d) visible).hasBoth then tag = none
      else ∀ offset, tag = some (.inView (found d) visible offset)
  | .closing _ => tag = none
  | .ending => tag = none

/-- The editor is asked for the language settled on, and for nothing else. -/
def Asks (cause : Cause) (r : Reaction) : Prop :=
  (r.tag = none ∧ r.requests = []) ∨
    ∃ document tag, cause.document? = some document ∧ r.tag = some tag ∧
      r.requests = [⟨document, tag⟩]

/-- Entries are looked through as they are listed, at every request. -/
abbrev listed : Nat → Cache.Order := fun _ => .listed

variable (scan : Finder) (cache : Cache)

theorem cache_reaction (cause : Cause) :
    (cause.reaction scan cache).cache = Cache.after scan listed cache cause.requests := by
  cases cause with
  | cursor d offset => rfl
  | viewport d visible offset =>
      rcases toViewport_spec scan cache d visible offset with ⟨rfl, -⟩ | ⟨hne, hcache, -⟩
      · rfl
      · rw [requests, if_neg hne]
        exact hcache
  | closing document => rfl
  | ending => rfl

theorem scanned_reaction (cause : Cause) :
    (cause.reaction scan cache).scanned.toNat =
      (Cache.replies scan listed cache cause.requests).countP Cache.Reply.isScan := by
  have hfound (d : Document) :
      (Cache.replies scan listed cache [.lookUp d.uri d.version d.text]).countP
          Cache.Reply.isScan = (cache.lookUp scan d.uri d.version d.text).scanned.toNat := by
    simp only [Cache.replies, Cache.serve, List.countP_singleton, Cache.Reply.isScan]
    change (if (cache.lookUp scan d.uri d.version d.text).scanned = true then 1 else 0) = _
    cases (cache.lookUp scan d.uri d.version d.text).scanned <;> rfl
  cases cause with
  | cursor d offset => exact (hfound d).symm
  | viewport d visible offset =>
      rcases toViewport_spec scan cache d visible offset with
        ⟨rfl, -⟩ | ⟨hne, -, -, -, hscanned⟩
      · rfl
      · rw [requests, if_neg hne, hfound, ← hscanned]
        rfl
  | closing document => rfl
  | ending => rfl

theorem settles_reaction (cause : Cause) :
    cause.Settles (fun d => (cache.lookUp scan d.uri d.version d.text).regions)
      (cause.reaction scan cache).tag := by
  cases cause with
  | cursor d offset => rfl
  | viewport d visible offset =>
      rcases toViewport_spec scan cache d visible offset with ⟨rfl, -⟩ | ⟨hne, -, -, htag, -⟩
      · cases offset with
        | some offset => rfl
        | none =>
            rw [Settles, if_pos (Or.inl rfl)]
            rfl
      · cases offset with
        | some offset => exact htag.trans (if_neg hne).symm
        | none =>
            rw [viewTag?] at htag
            rw [Settles]
            split
            · next hboth => exact htag.trans (if_pos (hboth.resolve_left hne))
            · next hone =>
                intro offset
                have hsingle := (not_or.1 hone).2
                rw [inView_of_not_hasBoth (Bool.eq_false_iff.2 hsingle) offset 0]
                exact htag.trans (if_neg hsingle)
  | closing document => rfl
  | ending => rfl

theorem asks_reaction (cause : Cause) : cause.Asks (cause.reaction scan cache) := by
  cases cause with
  | cursor d offset => exact Or.inr ⟨_, _, rfl, rfl, rfl⟩
  | viewport d visible offset =>
      rcases toViewport_spec scan cache d visible offset with
        ⟨-, -, hrequests, htag, -⟩ | ⟨-, -, hrequests, htag, -⟩
      · exact Or.inl ⟨htag, hrequests⟩
      · cases hview :
            viewTag? (cache.lookUp scan d.uri d.version d.text).regions visible offset with
        | none =>
            rw [hview] at hrequests htag
            exact Or.inl ⟨htag, hrequests⟩
        | some tag =>
            rw [hview] at hrequests htag
            exact Or.inr ⟨d.uri, tag, rfl, htag, hrequests⟩
  | closing document => exact Or.inl ⟨rfl, rfl⟩
  | ending => exact Or.inl ⟨rfl, rfl⟩

theorem after_eq (causes : List Cause) :
    after scan cache causes = Cache.after scan listed cache (causes.flatMap requests) := by
  induction causes generalizing cache with
  | nil => rfl
  | cons cause causes ih =>
      rw [after, ih, cache_reaction, List.flatMap_cons, Cache.after_append]

theorem countP_scanned (causes : List Cause) :
    (reactions scan cache causes).countP (·.2.scanned) =
      (Cache.replies scan listed cache (causes.flatMap requests)).countP Cache.Reply.isScan := by
  induction causes generalizing cache with
  | nil => rfl
  | cons cause causes ih =>
      rw [reactions, List.countP_cons, ih, List.flatMap_cons, Cache.replies_append,
        List.countP_append, ← scanned_reaction, cache_reaction, Nat.add_comm]
      cases (cause.reaction scan cache).scanned <;> rfl

theorem getElem?_reactions (before : List Cause) (cause : Cause) (later : List Cause) :
    (reactions scan cache (before ++ cause :: later))[before.length]? =
      some (cause, cause.reaction scan (after scan cache before)) := by
  induction before generalizing cache with
  | nil => rfl
  | cons first before ih => exact ih _

end Cause

/-- Reactions use the cache as look-ups of it would, one for each cursor and each
viewport that has ranges, decided or not. At most one language is asked for at each step,
the one that the regions found call for. -/
theorem reactions_are_requests_and_decisions (scan : Finder) (capacity : Option Nat)
    (causes : List Cause) :
    let start := Cache.ofCapacity capacity
    let requests := causes.flatMap Cause.requests
    let reactions := Cause.reactions scan start causes
    Cause.after scan start causes = Cache.after scan Cause.listed start requests ∧
    reactions.countP (·.2.scanned) =
      (Cache.replies scan Cause.listed start requests).countP Cache.Reply.isScan ∧
    (∀ before cause later, causes = before ++ cause :: later →
      let held := Cache.after scan Cause.listed start (before.flatMap Cause.requests)
      ∃ r, reactions[before.length]? = some (cause, r) ∧ cause.Asks r ∧
        cause.Settles (fun d => (held.lookUp scan d.uri d.version d.text).regions) r.tag) ∧
    (requests.countP Cache.Request.isLookUp < 2 ^ 64 → ∀ orders,
      (Cause.after scan start causes).byRecency.map Cache.Entry.kept =
          (Cache.after scan orders start requests).byRecency.map Cache.Entry.kept ∧
        reactions.countP (·.2.scanned) =
          (Cache.replies scan orders start requests).countP Cache.Reply.isScan) := by
  intro start requests reactions
  have hafter := Cause.after_eq scan start causes
  have hscans := Cause.countP_scanned scan start causes
  refine ⟨hafter, hscans, ?_, fun hclock orders => ?_⟩
  · rintro before cause later rfl
    intro held
    have hheld : Cause.after scan start before = held := Cause.after_eq scan start before
    refine ⟨cause.reaction scan held, ?_, Cause.asks_reaction scan held cause,
      Cause.settles_reaction scan held cause⟩
    rw [← hheld]
    exact Cause.getElem?_reactions scan start before cause later
  · have hlt : start.clock.toNat + requests.countP Cache.Request.isLookUp < 2 ^ 64 := by
      rw [show start.clock = 0 from rfl, UInt64.toNat_zero, Nat.zero_add]
      exact hclock
    have hstart := Cache.holds_ofCapacity capacity
    obtain ⟨hlisted, hreplies⟩ := hstart.run hlt Cause.listed scan
    obtain ⟨hother, hreplies'⟩ := hstart.run hlt orders scan
    rw [hafter, hscans, hreplies, hreplies', hlisted.byRecency_eq.1, hother.byRecency_eq.1]
    exact ⟨rfl, rfl⟩

/-- The last viewport shows both languages to no cursor. It is left alone, but its text is
scanned and takes the one place there is. -/
theorem reactions_are_requests_and_decisions_in_one_place :
    let a : Document := .ofText ⟨"file", none, "/a", none, none⟩ 1 "<?php ?>x"
    let b : Document := .ofText ⟨"file", none, "/b", none, none⟩ 1 "x"
    let first : List Cause := [.cursor a 3, .viewport a [] (some 0), .viewport b [⟨0, 1⟩] none]
    let last : Cause := .viewport a [⟨0, 9⟩] none
    let scan := Delimiters.standard.scan
    let start := Cache.ofCapacity (some 1)
    let requests := (first ++ [last]).flatMap Cause.requests
    let reactions := Cause.reactions scan start (first ++ [last])
    requests.countP Cache.Request.isLookUp < 2 ^ 64 ∧
      (Cache.replies scan Cause.listed start requests).countP Cache.Reply.isScan = 3 ∧
      reactions.countP (·.2.scanned) = 3 ∧
      ∃ r, reactions[3]? = some (last, r) ∧ r.tag = none ∧ r.requests = [] := by
  intro a b first last scan start requests reactions
  have hclock : requests.countP Cache.Request.isLookUp < 2 ^ 64 := by decide +kernel
  have hscans : (Cache.replies scan Cause.listed start requests).countP Cache.Reply.isScan = 3 := by
    decide +kernel
  obtain ⟨-, -, hstep, horders⟩ :=
    reactions_are_requests_and_decisions scan (some 1) (first ++ [last])
  obtain ⟨r, hr, hasks, hsettles⟩ := hstep first last [] rfl
  have hboth : (View.ofRanges ((Cache.after scan Cause.listed start
      (first.flatMap Cause.requests)).lookUp scan a.uri a.version a.text).regions
      [⟨0, 9⟩]).hasBoth = true := by
    decide +kernel
  have htag : r.tag = none := by
    rw [Cause.Settles, if_pos (Or.inr hboth)] at hsettles
    exact hsettles
  refine ⟨hclock, hscans, (horders hclock Cause.listed).2.trans hscans, r, hr, htag, ?_⟩
  rcases hasks with ⟨-, hnothing⟩ | ⟨document, tag, -, hsome, -⟩
  · exact hnothing
  · cases htag.symm.trans hsome

end Bilingual
