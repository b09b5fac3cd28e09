import Espresso.Proofs.Preset.Catalog
import Espresso.Proofs.Profile.Repeats

/-!
# Catalogs of documents

A catalog holds the presets of the documents that are admitted, one for each of them and in an order
that the documents decide alone: by title, then by name, then as they came. Documents that are not
admitted leave no trace in it, and where no two documents have the same name, neither does the order
in which they came.
-/

namespace Espresso

/-! ### What becomes of a document -/

/-- The preset of a source that is admitted. -/
def Source.preset? (source : Source) : Option Preset :=
  source.judge.toOption

namespace Document

/-- The preset of a document that is admitted. -/
def preset? (document : Document) : Option Preset :=
  match document.admit with
  | .ok (.admitted preset) => some preset
  | _ => none

variable {document : Document} {preset : Preset}

theorem preset?_eq_some_iff :
    document.preset? = some preset ↔ document.admit = .ok (.admitted preset) := by
  unfold preset?
  split <;> simp_all

theorem preset?_toSource (document : Document) :
    document.toSource.preset? = document.preset? := by
  ext preset
  rw [preset?_eq_some_iff, ← Source.judge_toSource_eq_ok_iff]
  exact toOption_eq_some_iff

/-- A document that cannot be used is one that cannot be read or lacks a text that it needs. -/
theorem failure_of_admit {failure : Failure} (h : document.admit = .error failure) :
    (∃ error, Profile.parse document.text = .error error ∧ failure = .unreadable error) ∨
      ∃ missing, failure = .missing missing := by
  unfold Document.admit at h
  cases hparse : Profile.parse document.text with
  | error error =>
    rw [hparse] at h
    cases h
    exact .inl ⟨error, rfl, rfl⟩
  | ok profile =>
    rw [hparse] at h
    dsimp only at h
    split at h
    · split at h
      · cases h
      · next missing _ =>
        cases h
        exact .inr ⟨missing, rfl⟩
    · cases h

end Document

/-- The presets of the documents that are admitted, in the order of the documents. -/
def admittedPresets (documents : List Document) : List Preset :=
  documents.filterMap Document.preset?

/-! ### Sorting -/

namespace Preset

/-- Whether a preset has this title and this name. -/
def isHeaded (title name : String) (preset : Preset) : Bool :=
  preset.title == title && preset.name == name

variable {first second : Preset}

theorem precedes_iff :
    first.precedes second = true ↔
      first.title < second.title ∨ first.title = second.title ∧ first.name ≤ second.name := by
  simp [precedes]

theorem precedes_of_isHeaded {title name : String} (hfirst : first.isHeaded title name = true)
    (hsecond : second.isHeaded title name = true) : first.precedes second = true := by
  simp only [isHeaded, Bool.and_eq_true, beq_iff_eq] at hfirst hsecond
  rw [precedes_iff, hfirst.1, hsecond.1, hfirst.2, hsecond.2]
  exact .inr ⟨rfl, String.le_refl name⟩

theorem name_eq_of_precedes (hfirst : first.precedes second = true)
    (hsecond : second.precedes first = true) : first.name = second.name := by
  rw [precedes_iff] at hfirst hsecond
  rcases hfirst with hlt | ⟨htitle, hle⟩
  · rcases hsecond with hgt | ⟨htitle, _⟩
    · exact absurd (String.lt_trans hlt hgt) (String.lt_irrefl _)
    · rw [htitle] at hlt
      exact absurd hlt (String.lt_irrefl _)
  · rcases hsecond with hgt | ⟨_, hge⟩
    · rw [htitle] at hgt
      exact absurd hgt (String.lt_irrefl _)
    · exact String.le_antisymm hle hge

end Preset

namespace Catalog

variable {documents : List Document}

theorem presets_ofSources (sources : List Source) :
    (ofSources sources).1.presets =
      (sources.filterMap Source.preset?).mergeSort Preset.precedes := by
  have hverdicts : (sources.map Source.judge).filterMap Except.toOption =
      sources.filterMap Source.preset? := List.filterMap_map
  unfold ofSources ofPresets
  rw [← hverdicts]

theorem presets_ofDocuments (documents : List Document) :
    (ofDocuments documents).1.presets = (admittedPresets documents).mergeSort Preset.precedes := by
  have hpresets : (documents.map Document.toSource).filterMap Source.preset? =
      admittedPresets documents := by
    unfold admittedPresets
    rw [List.filterMap_map]
    congr 1
    funext document
    exact document.preset?_toSource
  unfold ofDocuments
  rw [presets_ofSources, hpresets]

theorem ext_presets {first second : Catalog} (h : first.presets = second.presets) :
    first = second := by
  obtain ⟨presets, index, _, hindexed⟩ := first
  obtain ⟨others, index', _, hindexed'⟩ := second
  cases h
  rw [← hindexed'] at hindexed
  cases hindexed
  rfl

/-- Sorting keeps the presets of one heading in their order: they stand in this order in what is
sorted already, and there are no more of them afterwards. -/
theorem filter_isHeaded_mergeSort (presets : List Preset) (title name : String) :
    (presets.mergeSort Preset.precedes).filter (Preset.isHeaded title name) =
      presets.filter (Preset.isHeaded title name) := by
  have hheaded : (presets.filter (Preset.isHeaded title name)).Pairwise
      fun first second => first.precedes second = true :=
    List.pairwise_filter.mpr (List.pairwise_of_forall fun _ _ => Preset.precedes_of_isHeaded)
  have hsublist := (List.sublist_mergeSort Preset.precedes_trans Preset.precedes_total hheaded
    List.filter_sublist).filter (Preset.isHeaded title name)
  rw [List.filter_filter] at hsublist
  simp only [Bool.and_self] at hsublist
  have hperm := (List.mergeSort_perm presets Preset.precedes).filter (Preset.isHeaded title name)
  exact (hsublist.eq_of_length hperm.length_eq.symm).symm

/-- Two presets that precede one another have the same name, and documents with different names have
presets with different ones. -/
theorem ofDocuments_eq_of_perm (hnames : (documents.map Document.name).Nodup)
    {others : List Document} (hperm : others.Perm documents) :
    (ofDocuments others).1 = (ofDocuments documents).1 := by
  have hadmitted : (admittedPresets others).Perm (admittedPresets documents) :=
    hperm.filterMap Document.preset?
  have hsorted (presets : List Preset) : (presets.mergeSort Preset.precedes).Pairwise
      fun first second => first.precedes second = true :=
    List.pairwise_mergeSort Preset.precedes_trans Preset.precedes_total presets
  have hexists {presets : List Preset} (hpresets : presets.Perm (admittedPresets documents))
      {preset : Preset} (hmem : preset ∈ presets.mergeSort Preset.precedes) :
      ∃ document ∈ documents, document.preset? = some preset :=
    List.mem_filterMap.mp (hpresets.mem_iff.mp (List.mem_mergeSort.mp hmem))
  apply ext_presets
  rw [presets_ofDocuments, presets_ofDocuments]
  refine List.Perm.eq_of_pairwise ?_ (hsorted _) (hsorted _)
    ((List.mergeSort_perm _ _).trans (hadmitted.trans (List.mergeSort_perm _ _).symm))
  intro first second hfirst hsecond hprecedes hfollows
  obtain ⟨one, hone, hadmittedOne⟩ := hexists hadmitted hfirst
  obtain ⟨other, hother, hadmittedOther⟩ := hexists (List.Perm.refl _) hsecond
  have hname : one.name = other.name := by
    rw [← Document.name_of_admitted (Document.preset?_eq_some_iff.mp hadmittedOne),
      ← Document.name_of_admitted (Document.preset?_eq_some_iff.mp hadmittedOther)]
    exact Preset.name_eq_of_precedes hprecedes hfollows
  have hsame := eq_of_name_eq hnames hone hother hname
  subst hsame
  exact Option.some.inj (hadmittedOne.symm.trans hadmittedOther)

theorem ofDocuments_append_of_preset?_eq_none {front back : List Document} {document : Document}
    (h : document.preset? = none) :
    (ofDocuments (front ++ document :: back)).1 = (ofDocuments (front ++ back)).1 := by
  apply ext_presets
  rw [presets_ofDocuments, presets_ofDocuments]
  simp [admittedPresets, h]

theorem get_eq_ok_iff {catalog : Catalog} {name : String} {preset : Preset} :
    catalog.get name = .ok preset ↔
      ∃ before after, catalog.presets = before ++ preset :: after ∧ preset.name = name ∧
        ∀ other ∈ before, other.name ≠ name := by
  have hfind : catalog.get name = .ok preset ↔
      catalog.presets.find? (fun preset => preset.name == name) = some preset := by
    unfold get
    rw [find?_index]
    cases catalog.presets.find? fun preset => preset.name == name <;> simp
  rw [hfind, List.find?_eq_some_iff_append]
  constructor
  · rintro ⟨hname, before, after, hpresets, hbefore⟩
    exact ⟨before, after, hpresets, by simpa using hname, by simpa using hbefore⟩
  · rintro ⟨before, after, hpresets, hname, hbefore⟩
    exact ⟨by simpa using hname, before, after, hpresets, by simpa using hbefore⟩

theorem contains_iff {catalog : Catalog} {name : String} :
    catalog.contains name = true ↔ ∃ preset ∈ catalog.presets, preset.name = name := by
  unfold contains
  rw [find?_index, List.find?_isSome]
  simp

theorem contains_iff_get {catalog : Catalog} {name : String} :
    catalog.contains name = true ↔ ∃ preset, catalog.get name = .ok preset := by
  unfold contains get
  cases catalog.index.find? name <;> simp

/-- The catalog of the documents, said without building it. -/
structure Collects (catalog : Catalog) (documents : List Document) : Prop where
  perm : catalog.presets.Perm (admittedPresets documents)
  ordered : catalog.presets.Pairwise fun first second =>
    first.title < second.title ∨ first.title = second.title ∧ first.name ≤ second.name
  stable : ∀ title name, catalog.presets.filter (Preset.isHeaded title name) =
    (admittedPresets documents).filter (Preset.isHeaded title name)
  contains_iff : ∀ name, catalog.contains name = true ↔
    ∃ document ∈ documents, document.name = name ∧ ∃ preset, document.preset? = some preset
  contains_iff_get : ∀ name, catalog.contains name = true ↔ ∃ preset, catalog.get name = .ok preset
  get_iff : ∀ name preset, catalog.get name = .ok preset ↔
    ∃ before after, catalog.presets = before ++ preset :: after ∧ preset.name = name ∧
      ∀ other ∈ before, other.name ≠ name

theorem collects_ofDocuments (documents : List Document) :
    (ofDocuments documents).1.Collects documents where
  perm := by
    rw [presets_ofDocuments]
    exact List.mergeSort_perm _ _
  ordered := (ofDocuments documents).1.ordered.imp Preset.precedes_iff.mp
  stable title name := by
    rw [presets_ofDocuments]
    exact filter_isHeaded_mergeSort _ title name
  contains_iff name := by
    rw [Catalog.contains_iff]
    constructor
    · rintro ⟨preset, hpreset, rfl⟩
      obtain ⟨document, hdocument, hadmitted⟩ := mem_presets_ofDocuments_iff.mp hpreset
      exact ⟨document, hdocument, (Document.name_of_admitted hadmitted).symm, preset,
        Document.preset?_eq_some_iff.mpr hadmitted⟩
    · rintro ⟨document, hdocument, rfl, preset, hpreset⟩
      have hadmitted := Document.preset?_eq_some_iff.mp hpreset
      exact ⟨preset, mem_presets_ofDocuments_iff.mpr ⟨document, hdocument, hadmitted⟩,
        Document.name_of_admitted hadmitted⟩
  contains_iff_get _ := Catalog.contains_iff_get
  get_iff _ _ := get_eq_ok_iff

/-- **The catalog of some documents.** Every document is admitted, left out for its type, or found
unreadable or incomplete, and a catalog is built whatever they are. It holds the presets of the
admitted ones by title, by name and as they came, and finds under a name the first that bears it.
The other documents change nothing, and neither does the order of documents with different names. -/
theorem ofDocuments_collects_admitted (documents : List Document) :
    (∀ document ∈ documents,
      (∃ preset, document.admit = .ok (.admitted preset)) ∨
      (∃ type?, document.admit = .ok (.filtered type?)) ∨
      (∃ error, document.admit = .error (.unreadable error)) ∨
      ∃ missing, document.admit = .error (.missing missing)) ∧
    (ofDocuments documents).1.Collects documents ∧
    (∀ front document back, documents = front ++ document :: back → document.preset? = none →
      (ofDocuments (front ++ back)).1 = (ofDocuments documents).1) ∧
    ((documents.map Document.name).Nodup → ∀ others : List Document, others.Perm documents →
      (ofDocuments others).1 = (ofDocuments documents).1) := by
  refine ⟨fun document _ => ?_, collects_ofDocuments documents, ?_,
    fun hnames _ hperm => ofDocuments_eq_of_perm hnames hperm⟩
  · cases hadmit : document.admit with
    | ok admission =>
      cases admission with
      | admitted preset => exact .inl ⟨preset, rfl⟩
      | filtered type? => exact .inr (.inl ⟨type?, rfl⟩)
    | error failure =>
      rcases Document.failure_of_admit hadmit with ⟨error, _, rfl⟩ | ⟨missing, rfl⟩
      · exact .inr (.inr (.inl ⟨error, rfl⟩))
      · exact .inr (.inr (.inr ⟨missing, rfl⟩))
  · rintro front document back rfl hnone
    exact (ofDocuments_append_of_preset?_eq_none hnone).symm

def plainText : String :=
  "settings_profile_type settings_2c profile_title T profile_notes N advanced_shot \x7b\x7d"

/-- Two documents of one title, and one between them that cannot be read. -/
def plainDocuments : List Document :=
  [⟨"b", plainText⟩, ⟨"c", "profile_title"⟩, ⟨"a", plainText⟩]

def plainPreset (name : String) : Preset :=
  ⟨name, "T", "N", "\n"⟩

theorem presets_plainDocuments :
    (ofDocuments plainDocuments).1.presets = [plainPreset "a", plainPreset "b"] := by
  have hadmitted : admittedPresets plainDocuments = [plainPreset "b", plainPreset "a"] := by
    decide +kernel
  have hprecedes : (plainPreset "b").precedes (plainPreset "a") = false := by decide
  rw [presets_ofDocuments, hadmitted]
  simp [List.mergeSort, hprecedes]

theorem ofDocuments_reverse_plainDocuments :
    (plainDocuments.map Document.name).Nodup ∧
      (ofDocuments plainDocuments.reverse).1.presets = [plainPreset "a", plainPreset "b"] ∧
      (ofDocuments [⟨"b", plainText⟩, ⟨"a", plainText⟩]).1.presets =
        [plainPreset "a", plainPreset "b"] := by
  have hnames : (plainDocuments.map Document.name).Nodup := by decide
  have hunread : (⟨"c", "profile_title"⟩ : Document).preset? = none := by decide +kernel
  obtain ⟨-, -, hwithout, horder⟩ := ofDocuments_collects_admitted plainDocuments
  refine ⟨hnames, ?_, ?_⟩
  · rw [horder hnames _ (List.reverse_perm plainDocuments), presets_plainDocuments]
  · have hshort := hwithout [⟨"b", plainText⟩] _ [⟨"a", plainText⟩] rfl hunread
    rw [List.singleton_append] at hshort
    rw [hshort, presets_plainDocuments]

end Catalog

end Espresso
