import Bilingual.Proofs.Cache.Isolation
import Bilingual.Proofs.Reaction.Run

/-!
Runs of reactions on one cache without a capacity. A reaction follows from what is
kept of its own document, so that the reactions about other documents can be left out.
-/

namespace Bilingual

namespace Cause

/-- Whether it is about the document. The end is about all of them. -/
def touches (document : Uri) : Cause → Bool
  | .cursor d _ => d.uri = document
  | .viewport d _ _ => d.uri = document
  | .closing closed => closed = document
  | .ending => true

/-- The languages that a reaction asks for are those of the documents it is about. -/
theorem touches_of_requests {scan : Finder} {cache : Cache} {cause : Cause} {r : Retag}
    (hr : r ∈ (cause.reaction scan cache).requests) : cause.touches r.document = true := by
  cases cause with
  | cursor d offset =>
      obtain rfl := List.mem_singleton.1 hr
      exact decide_eq_true rfl
  | viewport d visible offset =>
      simp only [reaction, Reaction.toViewport] at hr
      split at hr
      · cases hr
      · split at hr
        · cases hr
        · obtain rfl := List.mem_singleton.1 hr
          exact decide_eq_true rfl
  | closing document => cases hr
  | ending => rfl

end Cause

/-- What there is to see of a reaction: the language it returns, its requests, whether a
text was scanned, the log, and what is kept of the document from then on. -/
structure Reaction.Sight where
  tag : Option Tag
  requests : List Retag
  scanned : Bool
  log : List Event
  kept : Option Cache.Kept
  deriving DecidableEq

def Reaction.sight (document : Uri) (r : Reaction) : Sight :=
  ⟨r.tag, r.requests, r.scanned, r.log, r.cache.kept? document⟩

namespace Cache.AgreesAt

variable {scan : Finder} {cache cache' : Cache} {document : Uri}

/-- Where two caches keep the same of a document, the reactions about it are alike. -/
theorem reaction (h : AgreesAt document cache cache') {cause : Cause}
    (htouches : cause.touches document = true) (scan : Finder) :
    AgreesAt document (cause.reaction scan cache).cache (cause.reaction scan cache').cache ∧
      (cause.reaction scan cache').sight document = (cause.reaction scan cache).sight document := by
  cases cause with
  | cursor d offset =>
      obtain rfl : d.uri = document := by simpa [Cause.touches] using htouches
      obtain ⟨⟨hregions, hscanned, hlog⟩, hagrees⟩ := h.lookUp scan d.version d.text
      refine ⟨hagrees, ?_⟩
      simp only [Cause.reaction, Reaction.toCursor, Reaction.sight, hregions, hscanned, hlog,
        hagrees.kept?_eq]
  | viewport d visible offset =>
      obtain rfl : d.uri = document := by simpa [Cause.touches] using htouches
      obtain ⟨⟨hregions, hscanned, hlog⟩, hagrees⟩ := h.lookUp scan d.version d.text
      simp only [Cause.reaction, Reaction.toViewport, hregions]
      split
      · exact ⟨h, by simp only [Reaction.sight, h.kept?_eq]⟩
      · split
        · exact ⟨hagrees, by simp only [Reaction.sight, hscanned, hlog, hagrees.kept?_eq]⟩
        · exact ⟨hagrees, by simp only [Reaction.sight, hscanned, hlog, hagrees.kept?_eq]⟩
  | closing closed =>
      obtain rfl : closed = document := by simpa [Cause.touches] using htouches
      have hagrees := h.forget closed
      refine ⟨hagrees, ?_⟩
      simp only [Cause.reaction, Reaction.toClosing, Reaction.sight, h.log_forget_eq,
        hagrees.kept?_eq]
  | ending => exact ⟨h.forgetAll, rfl⟩

/-- Reactions about other documents leave it alone. -/
theorem of_elsewhere (h : cache.capacity = none) {cause : Cause}
    (helse : cause.touches document = false) (scan : Finder) :
    AgreesAt document cache (cause.reaction scan cache).cache := by
  cases cause with
  | cursor d offset =>
      have hother : d.uri ≠ document := by simpa [Cause.touches] using helse
      exact agreesAt_lookUp h hother scan d.version d.text
  | viewport d visible offset =>
      have hother : d.uri ≠ document := by simpa [Cause.touches] using helse
      have hagrees := agreesAt_lookUp h hother scan d.version d.text
      simp only [Cause.reaction, Reaction.toViewport]
      split
      · exact .refl h document
      · split
        · exact hagrees
        · exact hagrees
  | closing closed =>
      have hother : closed ≠ document := by simpa [Cause.touches] using helse
      exact agreesAt_forget h hother
  | ending => cases helse

/-- Of a run, what there is to see of a document is the same if all that is about other
documents is left out. -/
theorem reactions (h : AgreesAt document cache cache') (scan : Finder) (causes : List Cause) :
    (Cause.reactions scan cache' (causes.filter (·.touches document))).map (·.2.sight document) =
        ((Cause.reactions scan cache causes).filter (·.1.touches document)).map
          (·.2.sight document) ∧
      AgreesAt document (Cause.after scan cache causes)
        (Cause.after scan cache' (causes.filter (·.touches document))) := by
  induction causes generalizing cache cache' with
  | nil => exact ⟨rfl, h⟩
  | cons cause causes ih =>
      cases htouches : cause.touches document with
      | true =>
          obtain ⟨hnext, hsight⟩ := h.reaction htouches scan
          obtain ⟨hlater, hafter⟩ := ih hnext
          simp only [List.filter_cons, htouches, if_true, Cause.reactions, List.map_cons]
          exact ⟨congrArg₂ List.cons hsight hlater, hafter⟩
      | false =>
          have hnext := of_elsewhere h.unbounded htouches scan
          simp only [List.filter_cons, htouches, Bool.false_eq_true, if_false, Cause.reactions]
          exact ih (hnext.symm.trans h)

end Cache.AgreesAt

end Bilingual
