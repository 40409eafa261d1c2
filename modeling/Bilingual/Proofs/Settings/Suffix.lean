import Bilingual.Proofs.Uri.Reading
import Bilingual.Settings

/-!
Which documents a suffix covers. The suffix is compared with the path as the URI spells
it, escapes and all, and not with the path that the spelling stands for. The two agree
as long as no escapes come into play; a suffix that would have to be escaped itself
covers no document at all.
-/

namespace Bilingual

open Text (utf8 utf8_suffix_iff)
open Uri.Percent (decode encode inPath isControl StandsApart)

variable {config : Config} {u : Uri}

theorem Config.covers_iff :
    config.covers u = true ↔ config.fileSuffix.toList <:+ u.path.toList := by
  rw [covers, String.endsWith, String.Slice.endsWith_string_iff, String.copy_toSlice]

/-- A suffix that neither has nor continues an escape is at the end of the path itself
if it is at the end of the spelling. -/
theorem utf8_suffix_decode {suffix path : List Char} (hpercent : '%' ∉ suffix)
    (hapart : StandsApart suffix) (h : suffix <:+ path) : utf8 suffix <:+ decode path := by
  obtain ⟨front, rfl⟩ := h
  rw [Uri.Percent.decode_append hapart, Uri.Percent.decode_of_not_mem hpercent]
  exact List.suffix_append _ _

/-- A suffix is looked for in the spelling of a path. Where the path is spelled without
escapes this is to look for it in the path. A suffix without percent signs that does not
begin with a hexadecimal digit is found in no other path; if it needs no escape either, it
is found in each such path that is escaped only where it has to be. With a character that
has to be escaped a suffix is not found in any URI that was read. -/
theorem covers_by_spelling (config : Config) (u : Uri) :
    let suffix := config.fileSuffix.toList
    let path := u.path.toList
    (config.covers u = true ↔ utf8 suffix <:+ utf8 path) ∧
    ('%' ∉ path → (config.covers u = true ↔ utf8 suffix <:+ decode path)) ∧
    ('%' ∉ suffix → StandsApart suffix →
      (config.covers u = true → utf8 suffix <:+ decode path) ∧
      ((∀ c ∈ suffix, inPath c = false) → ∀ plain : String, '%' ∉ plain.toList →
        path = encode inPath plain.toList →
        (config.covers u = true ↔ utf8 suffix <:+ decode path))) ∧
    ∀ written, Uri.parse written = .ok u →
      (∃ c ∈ suffix, isControl c = true ∨ path.head? = some '/' ∧ inPath c = true) →
        config.covers u = false := by
  intro suffix path
  have hcovers : config.covers u = true ↔ suffix <:+ path := Config.covers_iff
  refine ⟨hcovers.trans utf8_suffix_iff.symm, fun hpath => ?_, fun hpercent hapart => ⟨?_, ?_⟩, ?_⟩
  · rw [Uri.Percent.decode_of_not_mem hpath]
    exact hcovers.trans utf8_suffix_iff.symm
  · exact fun h => utf8_suffix_decode hpercent hapart (hcovers.1 h)
  · intro hclear plain hplain hpath
    refine ⟨fun h => utf8_suffix_decode hpercent hapart (hcovers.1 h), fun h => hcovers.2 ?_⟩
    rw [hpath, Uri.Percent.decode_encode hplain, utf8_suffix_iff] at h
    obtain ⟨front, hfront⟩ := h
    rw [hpath, ← hfront, Uri.Percent.encode_append, Uri.Percent.encode_of_clear hclear]
    exact List.suffix_append _ _
  · rintro written hread ⟨c, hc, hescape⟩
    obtain ⟨hcontrol, hslash⟩ := Uri.pathClear_of_parse hread
    rw [Bool.eq_false_iff]
    intro hcovered
    have hpath : c ∈ path := (hcovers.1 hcovered).subset hc
    rcases hescape with hcontrolled | ⟨hhead, hescaped⟩
    · cases hcontrolled.symm.trans (hcontrol c hpath)
    · cases hescaped.symm.trans (hslash hhead c hpath)

/-- The blank is escaped in the spelling. A suffix behind it is found, one with it is not. -/
theorem covers_by_spelling_of_a_blank :
    let suffix := Config.standard.fileSuffix.toList
    let blank : Config := { Config.standard with fileSuffix := " view.blade.php" }
    let u : Uri := ⟨"file", some ⟨"", "", none⟩, "/v/my%20view.blade.php", none, none⟩
    '%' ∉ suffix ∧ StandsApart suffix ∧ (∀ c ∈ suffix, inPath c = false) ∧
      '%' ∉ "/v/my view.blade.php".toList ∧
      u.path.toList = encode inPath "/v/my view.blade.php".toList ∧
      Config.standard.covers u = true ∧
      Uri.parse "file:///v/my view.blade.php" = .ok u ∧
      ' ' ∈ blank.fileSuffix.toList ∧ u.path.toList.head? = some '/' ∧ inPath ' ' = true ∧
      blank.covers u = false := by
  intro suffix blank u
  have hpercent : '%' ∉ suffix := by decide
  have hapart : StandsApart suffix := by
    intro c hc
    obtain rfl : '.' = c := Option.some.inj hc
    decide
  have hclear : ∀ c ∈ suffix, inPath c = false := by
    have hall : suffix.all (inPath · == false) = true := by decide
    exact fun c hc => eq_of_beq (List.all_eq_true.1 hall c hc)
  have hplain : '%' ∉ "/v/my view.blade.php".toList := by decide
  have hpath : u.path.toList = encode inPath "/v/my view.blade.php".toList := by decide +kernel
  have hread : Uri.parse "file:///v/my view.blade.php" = .ok u := by rfl
  have hblank : ' ' ∈ blank.fileSuffix.toList := by decide
  have hhead : u.path.toList.head? = some '/' := by decide
  have hescaped : inPath ' ' = true := by decide
  have hends : utf8 suffix <:+ decode u.path.toList := by decide +kernel
  obtain ⟨-, -, hfound, -⟩ := covers_by_spelling Config.standard u
  obtain ⟨-, -, -, hmissed⟩ := covers_by_spelling blank u
  exact ⟨hpercent, hapart, hclear, hplain, hpath,
    ((hfound hpercent hapart).2 hclear _ hplain hpath).2 hends, hread, hblank, hhead, hescaped,
    hmissed _ hread ⟨' ', hblank, Or.inr ⟨hhead, hescaped⟩⟩⟩

/-- A path that ends with the suffix is missed where the suffix has to be escaped. Of two
spellings of one path one is covered and the other is not. -/
theorem spelling_hides_the_suffix :
    let accented : Config := { Config.standard with fileSuffix := "é.php" }
    let locally (path : String) : Uri := ⟨"file", some ⟨"", "", none⟩, path, none, none⟩
    (Uri.parse "file:///v/é.php" = .ok (locally "/v/%C3%A9.php") ∧
      utf8 accented.fileSuffix.toList <:+ decode (locally "/v/%C3%A9.php").path.toList ∧
      accented.covers (locally "/v/%C3%A9.php") = false) ∧
    Uri.parse "file:///v/a.blade.php" = .ok (locally "/v/a.blade.php") ∧
      Uri.parse "file:///v/a%2Eblade.php" = .ok (locally "/v/a%2Eblade.php") ∧
      decode (locally "/v/a.blade.php").path.toList =
        decode (locally "/v/a%2Eblade.php").path.toList ∧
      Config.standard.covers (locally "/v/a.blade.php") = true ∧
      Config.standard.covers (locally "/v/a%2Eblade.php") = false := by
  intro accented locally
  refine ⟨⟨by rfl, by decide +kernel, ?_⟩, by rfl, by rfl, by decide +kernel, ?_, ?_⟩
  · rw [Bool.eq_false_iff, ne_eq, Config.covers_iff]
    decide +kernel
  · rw [Config.covers_iff]
    decide +kernel
  · rw [Bool.eq_false_iff, ne_eq, Config.covers_iff]
    decide +kernel

end Bilingual
