/-
AlertRelay/Proofs/Settings/Extension.lean

The path of a file of settings.

Whatever is asked for, the file that is used has the extension of settings (`Path.isToml_withToml`):
of the last name of a path the stem is kept, which is not empty and has no slash, so with the new
extension behind it this is the last name again and the stem is its stem.  A path without a last
name is one of directories only, and there is nothing to put an extension to.
-/
import AlertRelay.Proofs.Settings.File
import Mathlib.Data.List.DropRight
import Mathlib.Data.List.TakeWhile

namespace AlertRelay

namespace Path

/-- The stem of a name is its beginning. -/
theorem stem_ne_nil_and_prefix {name stem : List Char} {ext : Option (List Char)}
    (hname : name ≠ []) (h : splitName name = (stem, ext)) : stem ≠ [] ∧ stem <+: name := by
  simp only [splitName] at h
  split at h
  · cases h
    exact ⟨hname, List.prefix_rfl⟩
  · rename_i dot back hback
    split_ifs at h with hempty
    · cases h
      exact ⟨hname, List.prefix_rfl⟩
    · cases h
      have hsuffix : back <:+ name.reverse := by
        have hdrop := List.dropWhile_suffix (l := name.reverse) (· ≠ '.')
        rw [hback] at hdrop
        exact (List.suffix_cons dot back).trans hdrop
      refine ⟨fun hnil => hempty (List.reverse_eq_nil_iff.1 hnil), ?_⟩
      rwa [← List.reverse_suffix, List.reverse_reverse]

theorem splitName_concat {stem : List Char} (hstem : stem ≠ []) :
    splitName (stem ++ '.' :: tomlExtension) = (stem, some tomlExtension) := by
  have hreverse : (stem ++ '.' :: tomlExtension).reverse =
      'l' :: 'm' :: 'o' :: 't' :: '.' :: stem.reverse := by
    simp [tomlExtension]
  have hne : stem.reverse ≠ [] := fun h => hstem (List.reverse_eq_nil_iff.1 h)
  have hdrop : (stem ++ '.' :: tomlExtension).reverse.dropWhile (· ≠ '.') =
      '.' :: stem.reverse := by
    simp [hreverse]
  have htake : (stem ++ '.' :: tomlExtension).reverse.takeWhile (· ≠ '.') =
      tomlExtension.reverse := by
    rw [hreverse]
    rfl
  simp only [splitName, hdrop, htake, if_neg hne, List.reverse_reverse]

/-- Nothing, or something that ends in a slash. -/
def IsBefore (before : List Char) : Prop :=
  before.reverse.dropWhile (· ≠ '/') = before.reverse

theorem of_lastName? {path : String} {before name : List Char}
    (h : lastName? path = some (before, name)) : IsBefore before ∧ name ≠ [] ∧ '/' ∉ name := by
  simp only [lastName?, Option.ite_none_left_eq_some, Bool.or_eq_true, decide_eq_true_eq,
    not_or] at h
  obtain ⟨⟨⟨hne, -⟩, -⟩, h⟩ := h
  cases h
  refine ⟨?_, hne, ?_⟩
  · rw [IsBefore, List.reverse_reverse]
    exact List.dropWhile_idempotent _ _
  · intro hslash
    have htest := List.mem_takeWhile_imp (List.mem_reverse.1 hslash)
    exact absurd rfl (of_decide_eq_true htest)

theorem lastName?_concat {before stem : List Char} (hbefore : IsBefore before)
    (hstem : '/' ∉ stem) :
    lastName? (String.ofList (before ++ stem ++ '.' :: tomlExtension)) =
      some (before, stem ++ '.' :: tomlExtension) := by
  have hback : dropEnd (String.ofList (before ++ stem ++ '.' :: tomlExtension)).toList.reverse =
      (stem ++ '.' :: tomlExtension).reverse ++ before.reverse := by
    rw [String.toList_ofList, List.append_assoc, List.reverse_append]
    simp [tomlExtension, dropEnd]
  have hname : ∀ c ∈ (stem ++ '.' :: tomlExtension).reverse, decide (c ≠ '/') = true := by
    intro c hc
    rcases List.mem_append.1 (List.mem_reverse.1 hc) with hc | hc
    · exact decide_eq_true fun h => hstem (h ▸ hc)
    · have hext : ∀ c ∈ '.' :: tomlExtension, c ≠ '/' := by simp [tomlExtension]
      exact decide_eq_true (hext c hc)
  have htake : before.reverse.takeWhile (· ≠ '/') = [] := by
    have happend := List.takeWhile_append_dropWhile (p := (· ≠ '/')) (l := before.reverse)
    rw [hbefore] at happend
    simpa using happend
  simp only [lastName?, hback]
  rw [List.takeWhile_append_of_pos hname, List.dropWhile_append_of_pos hname, htake, hbefore]
  have hends : (stem ++ '.' :: tomlExtension).getLast? = some 'l' := by
    simp [tomlExtension]
  rw [List.append_nil, List.reverse_reverse, List.reverse_reverse, if_neg]
  simp only [Bool.or_eq_true, decide_eq_true_eq]
  rintro ((h | h) | h) <;> exact absurd (h ▸ hends) (by decide)

/-- **The file** has the extension of settings. -/
theorem isToml_withToml {path : String} (h : (lastName? path).isSome) :
    IsToml (withToml path) := by
  obtain ⟨⟨before, name⟩, hlast⟩ := Option.isSome_iff_exists.1 h
  obtain ⟨hbefore, hname, hslash⟩ := of_lastName? hlast
  cases hsplit : splitName name with
  | mk stem ext =>
    obtain ⟨hstem, hstart⟩ := stem_ne_nil_and_prefix hname hsplit
    by_cases hext : ext = some tomlExtension
    · have hpath : withToml path = path := by
        simp [withToml, hlast, hsplit, hext]
      rw [hpath]
      exact ⟨before, name, stem, hlast, by rw [hsplit, hext]⟩
    · have hpath : withToml path =
          String.ofList (before ++ stem ++ '.' :: tomlExtension) := by
        simp [withToml, hlast, hsplit, hext]
      rw [hpath]
      have hstemSlash : '/' ∉ stem := fun hmem => hslash (hstart.subset hmem)
      exact ⟨before, _, stem, lastName?_concat hbefore hstemSlash, splitName_concat hstem⟩

example : withToml "etc/relay.conf" = "etc/relay.toml" := by
  decide +kernel

theorem withToml_ne_empty {path : String} (h : path ≠ "") : withToml path ≠ "" := by
  cases hlast : lastName? path with
  | none => simpa [withToml, hlast] using h
  | some _ => exact (isToml_withToml (by rw [hlast]; rfl)).ne_empty

end Path

end AlertRelay
