/-!
Punycode: a label of a domain name written in ASCII. The ASCII characters come
first, and the others follow as gaps between sorted code points, in digits of
base 36 whose thresholds adapt to the size of the gaps seen so far.
-/

namespace Bilingual.Domain.Punycode

def digit (n : Nat) : Char :=
  if n < 26 then Char.ofNat (0x61 + n) else Char.ofNat (0x16 + n)

/-- The largest final digit at position `k`. -/
def threshold (k bias : Nat) : Nat :=
  if k ≤ bias + 1 then 1 else if bias + 26 ≤ k then 26 else k - bias

theorem threshold_bounds (k bias : Nat) : 1 ≤ threshold k bias ∧ threshold k bias ≤ 26 := by
  unfold threshold
  split
  · omega
  · split <;> omega

/-- A number in digits of varying base, the least significant first. -/
def digits (bias k n : Nat) : List Char :=
  let t := threshold k bias
  if n < t then [digit n]
  else digit (t + (n - t) % (36 - t)) :: digits bias (k + 36) ((n - t) / (36 - t))
termination_by n
decreasing_by
  have h := threshold_bounds k bias
  have := Nat.div_le_self (n - threshold k bias) (36 - threshold k bias)
  omega

def scaleDown (delta k : Nat) : Nat × Nat :=
  if delta ≤ 455 then (delta, k) else scaleDown (delta / 35) (k + 36)
termination_by delta

/-- The bias behind a gap `delta`, with `count` characters written. -/
def adapt (delta count : Nat) (first : Bool) : Nat :=
  let delta := if first then delta / 700 else delta / 2
  let (delta, k) := scaleDown (delta + delta / count) 0
  k + 36 * delta / (delta + 38)

structure State where
  delta : Nat
  bias : Nat
  written : Nat
  out : List Char

/-- One character of the label in the round that writes the code point `m`. -/
def State.pass (basic m : Nat) (s : State) (c : Char) : State :=
  if c.toNat < m then { s with delta := s.delta + 1 }
  else if c.toNat = m then
    { delta := 0
      bias := adapt s.delta (s.written + 1) (s.written = basic)
      written := s.written + 1
      out := s.out ++ digits s.bias 36 s.delta }
  else s

/-- One round for each code point `points` still to be written. -/
def State.rounds (label : List Char) (basic : Nat) : List Nat → Nat → State → State
  | [], _, s => s
  | m :: points, n, s =>
      let s := { s with delta := s.delta + (m - n) * (s.written + 1) }
      let s := label.foldl (State.pass basic m) s
      rounds label basic points (m + 1) { s with delta := s.delta + 1 }

def insertSorted (x : Nat) : List Nat → List Nat
  | [] => [x]
  | y :: ys => if x < y then x :: y :: ys else if x = y then y :: ys else y :: insertSorted x ys

def encode (label : List Char) : List Char :=
  let basic := label.filter (·.toNat < 0x80)
  let points := (label.filter (0x80 ≤ ·.toNat)).foldl (fun xs c => insertSorted c.toNat xs) []
  let lead := if basic.isEmpty then [] else basic ++ ['-']
  (State.rounds label basic.length points 0x80 ⟨0, 72, basic.length, lead⟩).out

/-- The value of a digit. -/
def value? (c : Char) : Option Nat :=
  if 'a' ≤ c ∧ c ≤ 'z' then some (c.toNat - 0x61)
  else if c.isDigit then some (c.toNat - 0x16)
  else none

/-- Adds the number at the head of `cs` to `sum`, and gives what follows it.
Sums and weights have 32 bits. -/
def number? (bias k weight sum : Nat) : List Char → Option (Nat × List Char)
  | [] => none
  | c :: cs => do
      let d ← value? c
      let sum := sum + d * weight
      let t := threshold k bias
      if Nat.pow 2 32 ≤ sum then none
      else if d < t then some (sum, cs)
      else if Nat.pow 2 32 ≤ weight * (36 - t) then none
      else number? bias (k + 36) (weight * (36 - t)) sum cs

theorem length_of_number? {bias k weight sum n : Nat} {cs rest : List Char}
    (h : number? bias k weight sum cs = some (n, rest)) : rest.length < cs.length := by
  induction cs generalizing k weight sum with
  | nil => simp [number?] at h
  | cons c cs ih =>
      simp only [number?, Option.bind_eq_bind, Option.bind_eq_some_iff] at h
      obtain ⟨d, -, h⟩ := h
      split at h
      · cases h
      · split at h
        · cases h
          simp only [List.length_cons]; omega
        · split at h
          · cases h
          · have := ih h
            simp only [List.length_cons]; omega

/-- Puts the characters that `cs` describes into `out`. The last one put there
is `point`, and `sum` is the place behind it. -/
def insertFrom (out : List Char) (point sum bias : Nat) (cs : List Char) :
    Option (List Char) :=
  if cs.isEmpty then some out
  else
    match _h : number? bias 36 1 sum cs with
    | none => none
    | some (next, rest) =>
        let count := out.length + 1
        let point := point + next / count
        let place := next % count
        if point.isValidChar then
          insertFrom (out.take place ++ Char.ofNat point :: out.drop place) point (place + 1)
            (adapt (next - sum) count (sum = 0)) rest
        else none
termination_by cs.length
decreasing_by exact length_of_number? ‹_›

/-- The label that a code in lower case stands for. The last hyphen ends the
ASCII characters. -/
def decode? (code : List Char) : Option (List Char) :=
  match code.reverse.dropWhile (· ≠ '-') with
  | _ :: c :: basic =>
      insertFrom (c :: basic).reverse 0x80 0 72 (code.reverse.takeWhile (· ≠ '-')).reverse
  | _ => insertFrom [] 0x80 0 72 code

end Bilingual.Domain.Punycode
