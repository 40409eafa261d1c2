import Mathlib.Data.List.Forall2
import Bilingual.Viewport

/-!
Decisions compare offsets and do nothing else with them. Offsets that are counted in two
ways lead to the same decisions, as long as they come in the same order.
-/

namespace Bilingual

/-- Offsets that are related come in the same order. -/
def KeepsOrder (R : Nat → Nat → Prop) : Prop :=
  ∀ ⦃offset offset' other other'⦄, R offset offset' → R other other' →
    (offset ≤ other ↔ offset' ≤ other')

structure Region.Related (R : Nat → Nat → Prop) (r r' : Region) : Prop where
  start : R r.start r'.start
  stop : R r.stop r'.stop

structure ByteRange.Related (R : Nat → Nat → Prop) (range range' : ByteRange) : Prop where
  start : R range.start range'.start
  stop : R range.stop range'.stop

variable {R : Nat → Nat → Prop}

theorem KeepsOrder.lt_iff (hR : KeepsOrder R) {offset offset' other other' : Nat}
    (h : R offset offset') (h' : R other other') : offset < other ↔ offset' < other' := by
  rw [← Nat.not_le, ← Nat.not_le, hR h' h]

namespace Region.Related

variable {r r' : Region} {range range' : ByteRange} {cursor cursor' : Nat}

theorem contains_eq (h : Region.Related R r r') (hR : KeepsOrder R) (hcursor : R cursor cursor') :
    r.contains cursor = r'.contains cursor' := by
  rw [Bool.eq_iff_iff, contains_iff, contains_iff, hR h.start hcursor, hR hcursor h.stop]

theorem overlaps_eq (h : Region.Related R r r') (hR : KeepsOrder R)
    (hrange : range.Related R range') : r.overlaps range = r'.overlaps range' := by
  rw [Bool.eq_iff_iff, overlaps_iff, overlaps_iff, hR.lt_iff hrange.start h.stop,
    hR.lt_iff h.start hrange.stop]

theorem covers_eq (h : Region.Related R r r') (hR : KeepsOrder R)
    (hrange : range.Related R range') : r.covers range = r'.covers range' := by
  rw [Bool.eq_iff_iff, covers_iff, covers_iff, hR h.start hrange.start, hR hrange.stop h.stop]

/-- A test that agrees on related regions agrees on related lists of them. -/
theorem any_eq {rs rs' : List Region} (h : List.Forall₂ (Region.Related R) rs rs')
    {test test' : Region → Bool} (htest : ∀ r r', Region.Related R r r' → test r = test' r') :
    rs.any test = rs'.any test' := by
  induction h with
  | nil => rfl
  | cons hr _ ih => rw [List.any_cons, List.any_cons, htest _ _ hr, ih]

end Region.Related

variable {regions regions' : List Region} {visible visible' : List ByteRange}
  {range range' : ByteRange} {cursor cursor' : Nat}

theorem Tag.atCursor_eq_of_related (hR : KeepsOrder R)
    (hregions : List.Forall₂ (Region.Related R) regions regions') (hcursor : R cursor cursor') :
    atCursor regions cursor = atCursor regions' cursor' := by
  rw [atCursor, atCursor,
    Region.Related.any_eq hregions fun _ _ h => h.contains_eq hR hcursor]

theorem View.see_eq_of_related (hR : KeepsOrder R)
    (hregions : List.Forall₂ (Region.Related R) regions regions')
    (hrange : range.Related R range') (v : View) : v.see regions range = v.see regions' range' := by
  rw [see, see, Region.Related.any_eq hregions fun _ _ h => h.overlaps_eq hR hrange,
    Region.Related.any_eq hregions fun _ _ h => h.covers_eq hR hrange]

theorem View.seeAll_eq_of_related (hR : KeepsOrder R)
    (hregions : List.Forall₂ (Region.Related R) regions regions')
    (hvisible : List.Forall₂ (ByteRange.Related R) visible visible') (v : View) :
    v.seeAll regions visible = v.seeAll regions' visible' := by
  induction hvisible generalizing v with
  | nil => rfl
  | cons hrange _ ih => rw [seeAll, seeAll, see_eq_of_related hR hregions hrange, ih]

theorem View.ofRanges_eq_of_related (hR : KeepsOrder R)
    (hregions : List.Forall₂ (Region.Related R) regions regions')
    (hvisible : List.Forall₂ (ByteRange.Related R) visible visible') :
    ofRanges regions visible = ofRanges regions' visible' :=
  seeAll_eq_of_related hR hregions hvisible nothing

theorem Tag.inView_eq_of_related (hR : KeepsOrder R)
    (hregions : List.Forall₂ (Region.Related R) regions regions')
    (hvisible : List.Forall₂ (ByteRange.Related R) visible visible') (hcursor : R cursor cursor') :
    inView regions visible cursor = inView regions' visible' cursor' := by
  rw [inView, inView, View.ofRanges_eq_of_related hR hregions hvisible,
    atCursor_eq_of_related hR hregions hcursor]

end Bilingual
