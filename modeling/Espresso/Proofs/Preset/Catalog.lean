import Espresso.Preset.Catalog
import Espresso.Proofs.Profile.Acceptance

/-!
# Presets of documents

The index of a catalog finds under a name the first preset that bears it. A catalog holds the presets
of the documents that are admitted, and no others; so where names are not used twice, the preset of
an admitted document is found under the name of that document.
-/

namespace Espresso

namespace NameIndex

theorem find?_enter (index : NameIndex) (preset : Preset) (name : String) :
    (index.enter preset).find? name =
      (index.find? name).or (if preset.name == name then some preset else none) := by
  unfold enter
  cases hfound : index.find? preset.name with
  | some found =>
    by_cases hname : preset.name = name
    · simp [← hname, hfound]
    · simp [hname]
  | none =>
    by_cases hname : preset.name = name
    · subst hname
      rw [hfound]
      simp [find?]
    · have hother : (name == preset.name) = false := by simpa using Ne.symm hname
      simp [find?, List.lookup_cons, hother, hname]

/-- What is in the index already goes before what is entered. -/
theorem find?_foldl_enter (presets : List Preset) (index : NameIndex) (name : String) :
    (presets.foldl enter index).find? name =
      (index.find? name).or (presets.find? fun preset => preset.name == name) := by
  induction presets generalizing index with
  | nil => simp
  | cons preset presets ih =>
    rw [List.foldl_cons, ih, find?_enter, Option.or_assoc, List.find?_cons]
    cases preset.name == name <;> rfl

theorem find?_ofPresets (presets : List Preset) (name : String) :
    (ofPresets presets).find? name = presets.find? fun preset => preset.name == name :=
  find?_foldl_enter presets empty name

end NameIndex

theorem Document.name_of_admitted {document : Document} {preset : Preset}
    (h : document.admit = .ok (.admitted preset)) : preset.name = document.name := by
  obtain ⟨_, _, _, _, _, _, rfl⟩ := Document.admit_eq_admitted_iff.mp h
  rfl

theorem Source.judge_toSource_eq_ok_iff {document : Document} {preset : Preset} :
    document.toSource.judge = .ok preset ↔ document.admit = .ok (.admitted preset) := by
  unfold Source.judge Document.toSource
  dsimp only
  split <;> simp_all

namespace Catalog

variable {documents : List Document} {document : Document} {preset : Preset}

theorem find?_index (catalog : Catalog) (name : String) :
    catalog.index.find? name = catalog.presets.find? fun preset => preset.name == name := by
  rw [catalog.indexed]
  exact NameIndex.find?_ofPresets catalog.presets name

theorem mem_presets_ofSources_iff {sources : List Source} :
    preset ∈ (ofSources sources).1.presets ↔ ∃ source ∈ sources, source.judge = .ok preset := by
  simp [ofSources, ofPresets, toOption_eq_some_iff]

theorem mem_presets_ofDocuments_iff :
    preset ∈ (ofDocuments documents).1.presets ↔
      ∃ document ∈ documents, document.admit = .ok (.admitted preset) := by
  unfold ofDocuments
  rw [mem_presets_ofSources_iff]
  constructor
  · rintro ⟨_, hsource, hjudge⟩
    obtain ⟨document, hdocument, rfl⟩ := List.mem_map.mp hsource
    exact ⟨document, hdocument, Source.judge_toSource_eq_ok_iff.mp hjudge⟩
  · rintro ⟨document, hdocument, hadmitted⟩
    exact ⟨document.toSource, List.mem_map_of_mem hdocument,
      Source.judge_toSource_eq_ok_iff.mpr hadmitted⟩

theorem eq_of_name_eq (hnames : (documents.map Document.name).Nodup) {first second : Document}
    (hfirst : first ∈ documents) (hsecond : second ∈ documents) (h : first.name = second.name) :
    first = second :=
  Tagged.eq_of_pairwise_tag_ne (List.pairwise_map.mp hnames) hfirst hsecond h

/-- Sorting moves a preset, and does not keep it from being found. -/
theorem get_ofDocuments (hnames : (documents.map Document.name).Nodup)
    (hdocument : document ∈ documents) (hadmitted : document.admit = .ok (.admitted preset)) :
    (ofDocuments documents).1.get document.name = .ok preset := by
  have hmem := mem_presets_ofDocuments_iff.mpr ⟨document, hdocument, hadmitted⟩
  unfold get
  rw [find?_index]
  cases hfind : (ofDocuments documents).1.presets.find? fun preset =>
      preset.name == document.name with
  | none =>
    have hnone := List.find?_eq_none.mp hfind preset hmem
    simp [Document.name_of_admitted hadmitted] at hnone
  | some found =>
    obtain ⟨other, hother, hadmittedOther⟩ :=
      mem_presets_ofDocuments_iff.mp (List.mem_of_find?_eq_some hfind)
    have hname : found.name = document.name := by simpa using List.find?_some hfind
    have hotherName : other.name = document.name :=
      (Document.name_of_admitted hadmittedOther).symm.trans hname
    have hsame := eq_of_name_eq hnames hother hdocument hotherName
    subst hsame
    cases hadmitted.symm.trans hadmittedOther
    rfl

end Catalog

end Espresso
