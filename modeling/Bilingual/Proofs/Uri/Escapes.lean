import Bilingual.Proofs.Text.Occurrence
import Bilingual.Uri.Percent

/-!
What undoing escapes makes of a text. Two parts of it can be read apart unless an
escape reaches from one into the other, and an escaped text reads as it was.
-/

namespace Bilingual.Uri.Percent

open Text (digit? utf8)

/-- A text that no escape can reach into: it does not begin with a digit of one. -/
def StandsApart (cs : List Char) : Prop := ∀ c ∈ cs.head?, digit? c = none

variable {cs front rest : List Char} {inSet : Char → Bool} {c : Char}

theorem decode_escaped {a b : Char} {high low : Nat} (ha : digit? a = some high)
    (hb : digit? b = some low) (rest : List Char) :
    decode ('%' :: a :: b :: rest) = UInt8.ofNat (16 * high + low) :: decode rest := by
  rw [decode]
  simp only [ha, hb]

theorem decode_cons (h : c ≠ '%') (rest : List Char) :
    decode (c :: rest) = String.utf8EncodeChar c ++ decode rest := by
  rw [decode]
  intro a b more hc
  exact absurd hc h

/-- A percent sign that begins no escape. -/
theorem decode_percent (h : ∀ a b more, cs = a :: b :: more → digit? a = none ∨ digit? b = none) :
    decode ('%' :: cs) = 0x25 :: decode cs := by
  match cs, h with
  | [], _ => rfl
  | [_], _ => rfl
  | a :: b :: more, h =>
      rw [decode]
      split
      · next ha hb =>
          rcases h a b more rfl with hnone | hnone
          · cases ha.symm.trans hnone
          · cases hb.symm.trans hnone
      · rfl

/-- Two texts are read apart if no escape reaches from the one into the other. -/
theorem decode_append (h : StandsApart rest) (front : List Char) :
    decode (front ++ rest) = decode front ++ decode rest := by
  fun_induction decode front with
  | case1 => rfl
  | case2 a b front high low hb ha ih =>
      simp only [List.cons_append]
      rw [decode_escaped ha hb, ih]
  | case3 a b front hnot ih =>
      simp only [List.cons_append] at ih ⊢
      rw [decode_percent, ih]
      rintro _ _ _ ⟨⟩
      cases ha : digit? a with
      | none => exact Or.inl rfl
      | some high =>
          cases hb : digit? b with
          | none => exact Or.inr rfl
          | some low => exact (hnot high low ha hb).elim
  | case4 c front hnot ih =>
      rw [List.cons_append, List.append_assoc, ← ih]
      by_cases hc : c = '%'
      · subst hc
        refine decode_percent fun a b more heq => ?_
        match front, hnot with
        | [], _ =>
            cases heq
            exact Or.inl (h a rfl)
        | [_], _ =>
            cases heq
            exact Or.inr (h b rfl)
        | a :: b :: front, hnot => exact (hnot a b front rfl rfl).elim
      · exact decode_cons hc _

/-- Without a percent sign there is nothing to undo. -/
theorem decode_of_not_mem (h : '%' ∉ cs) : decode cs = utf8 cs := by
  induction cs with
  | nil => rfl
  | cons c cs ih =>
      obtain ⟨hc, hcs⟩ := not_or.1 (mt List.mem_cons.2 h)
      rw [decode_cons (Ne.symm hc), ih hcs]
      rfl

theorem digit?_hexDigit {n : Nat} (h : n < 16) : digit? (hexDigit n) = some n := by
  revert n
  decide

theorem decode_escape (b : UInt8) (rest : List Char) :
    decode (escape b ++ rest) = b :: decode rest := by
  have hhigh : b.toNat / 16 < 16 := by
    have := b.toNat_lt
    omega
  have hlow : b.toNat % 16 < 16 := Nat.mod_lt _ (by decide)
  refine (decode_escaped (digit?_hexDigit hhigh) (digit?_hexDigit hlow) rest).trans ?_
  rw [Nat.div_add_mod, UInt8.ofNat_toNat]

theorem decode_escapes (bytes : List UInt8) (rest : List Char) :
    decode (bytes.flatMap escape ++ rest) = bytes ++ decode rest := by
  induction bytes with
  | nil => rfl
  | cons b bytes ih =>
      rw [List.flatMap_cons, List.append_assoc, decode_escape, ih, List.cons_append]

theorem encode_cons (inSet : Char → Bool) (c : Char) (cs : List Char) :
    encode inSet (c :: cs) =
      (if inSet c then (String.utf8EncodeChar c).flatMap escape else [c]) ++ encode inSet cs :=
  List.flatMap_cons

/-- An escaped text reads as it was, if it had no percent signs of its own. -/
theorem decode_encode (h : '%' ∉ cs) : decode (encode inSet cs) = utf8 cs := by
  induction cs with
  | nil => rfl
  | cons c cs ih =>
      obtain ⟨hc, hcs⟩ := not_or.1 (mt List.mem_cons.2 h)
      rw [encode_cons]
      split
      · rw [decode_escapes, ih hcs]
        rfl
      · rw [List.singleton_append, decode_cons (Ne.symm hc), ih hcs]
        rfl

/-- What needs no escape is left as it is. -/
theorem encode_of_clear (h : ∀ c ∈ cs, inSet c = false) : encode inSet cs = cs := by
  induction cs with
  | nil => rfl
  | cons c cs ih =>
      have hcs := ih fun c hc => h c (List.mem_cons_of_mem _ hc)
      rw [encode_cons, h c List.mem_cons_self, hcs]
      rfl

theorem encode_append (a b : List Char) :
    encode inSet (a ++ b) = encode inSet a ++ encode inSet b :=
  List.flatMap_append

/-- What is escaped holds nothing that needs an escape, as long as escapes themselves
need none. -/
theorem clear_encode (hpercent : inSet '%' = false)
    (hdigit : ∀ n < 16, inSet (hexDigit n) = false) (cs : List Char) :
    ∀ c ∈ encode inSet cs, inSet c = false := by
  intro c hc
  obtain ⟨c', -, hc⟩ := List.mem_flatMap.1 hc
  split at hc
  · obtain ⟨b, -, hb⟩ := List.mem_flatMap.1 hc
    have := b.toNat_lt
    simp only [escape, List.mem_cons, List.not_mem_nil, or_false] at hb
    rcases hb with rfl | rfl | rfl
    · exact hpercent
    · exact hdigit _ (by omega)
    · exact hdigit _ (by omega)
  · next hclear =>
      obtain rfl := List.mem_singleton.1 hc
      exact Bool.eq_false_iff.2 hclear

end Bilingual.Uri.Percent
