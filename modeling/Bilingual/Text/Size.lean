/-!
Sizes of text in the two units that occur: bytes of UTF-8, in which offsets are
counted, and units of UTF-16, in which an editor counts columns.
-/

namespace Bilingual.Text

/-- Bytes that a run of characters takes in UTF-8. -/
def byteSize (cs : List Char) : Nat :=
  cs.foldr (fun c n => c.utf8Size + n) 0

/-- Units that a character takes in UTF-16. -/
def units (c : Char) : UInt32 :=
  if c.val < 0x10000 then 1 else 2

/-- Units that a run of characters takes in UTF-16. -/
def unitSize (cs : List Char) : Nat :=
  cs.foldr (fun c n => (units c).toNat + n) 0

@[simp] theorem byteSize_nil : byteSize [] = 0 := rfl

@[simp] theorem byteSize_cons (c : Char) (cs : List Char) :
    byteSize (c :: cs) = c.utf8Size + byteSize cs := rfl

@[simp] theorem byteSize_append (a b : List Char) :
    byteSize (a ++ b) = byteSize a + byteSize b := by
  induction a with
  | nil => simp
  | cons c a ih => simp [ih]; omega

@[simp] theorem unitSize_nil : unitSize [] = 0 := rfl

@[simp] theorem unitSize_cons (c : Char) (cs : List Char) :
    unitSize (c :: cs) = (units c).toNat + unitSize cs := rfl

@[simp] theorem unitSize_append (a b : List Char) :
    unitSize (a ++ b) = unitSize a + unitSize b := by
  induction a with
  | nil => simp
  | cons c a ih => simp [ih]; omega

end Bilingual.Text
