import Bilingual.Proofs.Server.Prompting
import Bilingual.Proofs.Settings.Saving

/-!
What an answer to the advisory changes for good: one title, word for word, makes
the server save that the advisory has been dismissed, and nothing else makes it
write.
-/

namespace Bilingual

namespace Advisory

/-- The answer is the one title. -/
def Dismisses (answer : Json) : Prop :=
  ∃ members, answer = .object members ∧
    members.lookup "title" = some (.string "Don't show again")

theorem chosenTitle_eq_dismiss_iff (answer : Json) :
    chosenTitle answer = .ok (some dismiss) ↔ Dismisses answer := by
  cases answer with
  | object members =>
      simp only [chosenTitle, Dismisses, Json.object.injEq, exists_eq_left']
      cases hm : members.lookup "title" with
      | none => simp
      | some j =>
          cases j <;> simp [dismiss]
  | null | bool _ | number _ | float _ | string _ | array _ =>
      simp [chosenTitle, Dismisses]

theorem files_remember (files : FileTree) (path : Path) :
    (remember files path).files = (Preferences.save files path ⟨true⟩).1 := by
  unfold remember
  dsimp only
  split <;> rfl

/-- An answer makes for a write only if it is the one title and there is a path. -/
theorem answered_cases (files : FileTree) (path : Option Path)
    (answer : Except Rpc.Error Json) :
    (∃ result p, answer = .ok result ∧ Dismisses result ∧ path = some p ∧
      (answered files path answer).files = (Preferences.save files p ⟨true⟩).1) ∨
    ((∀ result p, answer = .ok result → Dismisses result → path ≠ some p) ∧
      (answered files path answer).files = files) := by
  cases answer with
  | error e => exact Or.inr ⟨nofun, rfl⟩
  | ok result =>
      have hbind : (Except.ok result >>= chosenTitle) = chosenTitle result := rfl
      have htitle := chosenTitle_eq_dismiss_iff result
      simp only [answered, hbind]
      cases hchosen : chosenTitle result with
      | error e =>
          refine Or.inr ⟨?_, rfl⟩
          intro result' p heq hdismisses
          cases heq
          cases hchosen.symm.trans (htitle.2 hdismisses)
      | ok title =>
          cases path with
          | none => exact Or.inr ⟨nofun, rfl⟩
          | some p =>
              by_cases hdismiss : title = some dismiss
              · subst hdismiss
                refine Or.inl ⟨result, p, rfl, htitle.1 hchosen, rfl, ?_⟩
                simp only [if_true, files_remember]
              · refine Or.inr ⟨?_, by simp only [if_neg hdismiss]⟩
                intro result' p' heq hdismisses
                cases heq
                cases hchosen.symm.trans (htitle.2 hdismisses)
                exact absurd rfl hdismiss

end Advisory

end Bilingual
