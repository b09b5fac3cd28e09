import Espresso.Proofs.Service.Custody
import Mathlib.Data.List.Basic

/-!
# The log

Each source of a catalog is accounted for once: it gives a preset, or it gives a record that says
why not. The records come in the order of the sources, and those of a folder in the order of the
names. A file that gives no preset can be taken away, and nothing changes but that its record is
gone.
-/

namespace Espresso

/-! ### Sorting -/

section Sorting

variable {α : Type} {le : α → α → Bool}

/-- What goes before an item and what goes after it can be told apart. -/
theorem filter_append_of_split {item : α} {front back : List α}
    (hfront : ∀ other ∈ front, (!le item other) = true)
    (hback : ∀ other ∈ back, le item other = true) :
    (front ++ back).filter (fun other => !le item other) = front ∧
      (front ++ back).filter (le item) = back := by
  rw [List.filter_append, List.filter_append, List.filter_eq_self.mpr hfront,
    List.filter_eq_self.mpr hback, List.filter_eq_nil_iff.mpr (by simpa using hback),
    List.filter_eq_nil_iff.mpr (by simpa using hfront), List.append_nil, List.nil_append]
  exact ⟨rfl, rfl⟩

variable (htrans : ∀ first second third, le first second = true → le second third = true →
    le first third = true)
  (htotal : ∀ first second, (le first second || le second first) = true)
include htrans htotal

theorem exists_mergeSort_cons_eq (item : α) (items : List α) :
    ∃ front back, (item :: items).mergeSort le = front ++ item :: back ∧
      items.mergeSort le = front ++ back ∧ (∀ other ∈ front, (!le item other) = true) ∧
        ∀ other ∈ back, le item other = true := by
  obtain ⟨front, back, hsorted, hitems, hfront⟩ := List.mergeSort_cons htrans htotal item items
  have hordered := List.pairwise_mergeSort htrans htotal (item :: items)
  rw [hsorted, List.pairwise_append, List.pairwise_cons] at hordered
  exact ⟨front, back, hsorted, hitems, hfront, hordered.2.1.1⟩

/-- It is the same to leave items out before the rest is sorted and afterwards. -/
theorem mergeSort_filter (keep : α → Bool) (items : List α) :
    (items.filter keep).mergeSort le = (items.mergeSort le).filter keep := by
  induction items with
  | nil => simp
  | cons item items ih =>
    obtain ⟨front, back, hsorted, hitems, hfront, hback⟩ :=
      exists_mergeSort_cons_eq htrans htotal item items
    rw [hitems, List.filter_append] at ih
    rw [hsorted, List.filter_append]
    cases hkeep : keep item with
    | false =>
      have hout : ¬ keep item = true := by simp [hkeep]
      rw [List.filter_cons_of_neg hout, List.filter_cons_of_neg hout, ih]
    | true =>
      obtain ⟨earlier, later, hkept, hrest, hearlier, hlater⟩ :=
        exists_mergeSort_cons_eq htrans htotal item (items.filter keep)
      have hkeptFront : ∀ other ∈ front.filter keep, (!le item other) = true :=
        fun other hother => hfront other (List.mem_filter.mp hother).1
      have hkeptBack : ∀ other ∈ back.filter keep, le item other = true :=
        fun other hother => hback other (List.mem_filter.mp hother).1
      obtain ⟨hbefore, hafter⟩ := filter_append_of_split hearlier hlater
      obtain ⟨hbefore', hafter'⟩ := filter_append_of_split hkeptFront hkeptBack
      rw [← ih, hrest] at hbefore' hafter'
      rw [List.filter_cons_of_pos hkeep, List.filter_cons_of_pos hkeep, hkept,
        hbefore.symm.trans hbefore', hafter.symm.trans hafter']

end Sorting

/-! ### Accounts of sources -/

namespace Source

/-- What can become of a source. -/
inductive Judges : Source → Except Record Preset → Prop
  | unreadable (name : String) : Judges ⟨name, none⟩ (.error (.unreadable name))
  | rejected {name text : String} {cause : Failure} : Document.admit ⟨name, text⟩ = .error cause →
      Judges ⟨name, some text⟩ (.error (.rejected name cause))
  | filtered {name text : String} {type? : Option ProfileType} :
      Document.admit ⟨name, text⟩ = .ok (.filtered type?) →
        Judges ⟨name, some text⟩ (.error (.filtered name type?))
  | admitted {name text : String} {preset : Preset} :
      Document.admit ⟨name, text⟩ = .ok (.admitted preset) →
        Judges ⟨name, some text⟩ (.ok preset)

theorem judges (source : Source) : source.Judges source.judge := by
  obtain ⟨name, text?⟩ := source
  cases text? with
  | none => exact .unreadable name
  | some text =>
    unfold judge
    cases hverdict : Document.admit ⟨name, text⟩ with
    | error cause => simpa only [hverdict] using Judges.rejected hverdict
    | ok admission =>
      cases admission with
      | admitted preset => simpa only [hverdict] using Judges.admitted hverdict
      | filtered type? => simpa only [hverdict] using Judges.filtered hverdict

/-- The source can be read, and the catalog admits it. -/
def Gives (source : Source) (preset : Preset) : Prop :=
  ∃ text, source.text? = some text ∧
    Document.admit ⟨source.name, text⟩ = .ok (.admitted preset)

/-- The record of a source that gives no preset. -/
structure Skips (source : Source) (record : Record) : Prop where
  not_gives : ∀ preset, ¬ source.Gives preset
  document : record.document? = some source.name
  unreadable : source.text? = none → record.level = .warning
  rejected : ∀ text cause, source.text? = some text →
    Document.admit ⟨source.name, text⟩ = .error cause → record.level = .warning ∧
      record.message = "Skipping " ++ source.name ++ ": " ++ cause.headline
  filtered : ∀ text type?, source.text? = some text →
    Document.admit ⟨source.name, text⟩ = .ok (.filtered type?) → record.level = .debug

variable {source : Source} {preset : Preset} {record : Record}

theorem gives_of_judge (h : source.judge = .ok preset) : source.Gives preset := by
  have hjudges := source.judges
  rw [h] at hjudges
  cases hjudges with
  | admitted hverdict => exact ⟨_, rfl, hverdict⟩

theorem judge_eq_of_gives (h : source.Gives preset) : source.judge = .ok preset := by
  obtain ⟨text, htext, hverdict⟩ := h
  unfold judge
  simp only [htext, hverdict]

theorem skips_of_judge (h : source.judge = .error record) : source.Skips record := by
  have hnone (preset : Preset) : ¬ source.Gives preset := by
    intro hgives
    cases h.symm.trans (judge_eq_of_gives hgives)
  have hjudges := source.judges
  rw [h] at hjudges
  cases hjudges with
  | unreadable name => exact ⟨hnone, rfl, fun _ => rfl, nofun, nofun⟩
  | rejected hverdict =>
    refine ⟨hnone, rfl, fun _ => rfl, ?_, ?_⟩
    · intro text cause htext hcause
      cases htext
      cases hverdict.symm.trans hcause
      exact ⟨rfl, rfl⟩
    · intro text type? htext htype
      cases htext
      cases hverdict.symm.trans htype
  | filtered hverdict =>
    refine ⟨hnone, rfl, nofun, ?_, fun _ _ _ _ => rfl⟩
    intro text cause htext hcause
    cases htext
    cases hverdict.symm.trans hcause

def record? (source : Source) : Option Record :=
  match source.judge with
  | .ok _ => none
  | .error record => some record

/-- Every source comes to one of the two. -/
theorem preset?_or_record? (source : Source) :
    (∃ preset, source.preset? = some preset ∧ source.record? = none ∧ source.Gives preset) ∨
      ∃ record, source.preset? = none ∧ source.record? = some record ∧ source.Skips record := by
  unfold preset? record?
  cases hjudge : source.judge with
  | ok preset => exact .inl ⟨preset, rfl, rfl, gives_of_judge hjudge⟩
  | error record => exact .inr ⟨record, rfl, rfl, skips_of_judge hjudge⟩

end Source

/-- Each source is accounted for, by a preset or by a record, in the order of the sources. -/
inductive Accounts : List Source → List Preset → List Record → Prop
  | nil : Accounts [] [] []
  | gives {source : Source} {preset : Preset} {sources : List Source} {presets : List Preset}
      {records : List Record} : source.Gives preset → Accounts sources presets records →
        Accounts (source :: sources) (preset :: presets) records
  | skips {source : Source} {record : Record} {sources : List Source} {presets : List Preset}
      {records : List Record} : source.Skips record → Accounts sources presets records →
        Accounts (source :: sources) presets (record :: records)

theorem Accounts.length_add_length {sources : List Source} {presets : List Preset}
    {records : List Record} (h : Accounts sources presets records) :
    presets.length + records.length = sources.length := by
  induction h with
  | nil => rfl
  | gives _ _ ih =>
    rw [List.length_cons, List.length_cons]
    omega
  | skips _ _ ih =>
    rw [List.length_cons, List.length_cons]
    omega

/-- The induction is on the sources; each adds to one of the two lists. -/
theorem accounts_filterMap (sources : List Source) :
    Accounts sources (sources.filterMap Source.preset?) (sources.filterMap Source.record?) := by
  induction sources with
  | nil => exact .nil
  | cons source sources ih =>
    rcases source.preset?_or_record? with ⟨preset, hpreset, hrecord, hgives⟩ |
      ⟨record, hpreset, hrecord, hskips⟩
    · rw [List.filterMap_cons_some hpreset, List.filterMap_cons_none hrecord]
      exact .gives hgives ih
    · rw [List.filterMap_cons_none hpreset, List.filterMap_cons_some hrecord]
      exact .skips hskips ih

namespace Catalog

variable {sources : List Source}

theorem records_ofSources (sources : List Source) :
    (ofSources sources).2 = sources.filterMap Source.record? := by
  unfold ofSources
  exact List.filterMap_map

/-- What a catalog and its records make of the sources. -/
theorem exists_accounts_ofSources (sources : List Source) :
    ∃ presets, Accounts sources presets (ofSources sources).2 ∧
      (ofSources sources).1.presets.Perm presets ∧
        (ofSources sources).1.size + (ofSources sources).2.length = sources.length := by
  have haccounts := accounts_filterMap sources
  have hperm : (ofSources sources).1.presets.Perm (sources.filterMap Source.preset?) := by
    rw [presets_ofSources]
    exact List.mergeSort_perm _ _
  rw [← records_ofSources] at haccounts
  refine ⟨_, haccounts, hperm, ?_⟩
  unfold size
  rw [hperm.length_eq]
  exact haccounts.length_add_length

/-- What gives no preset can be left out. -/
theorem catalog_ofSources_filter {keep : Source → Bool}
    (h : ∀ source ∈ sources, keep source = false → ∀ preset, ¬ source.Gives preset) :
    (ofSources (sources.filter keep)).1 = (ofSources sources).1 := by
  apply ext_presets
  rw [presets_ofSources, presets_ofSources, List.filterMap_filter]
  congr 1
  refine List.filterMap_congr fun source hsource => ?_
  cases hkeep : keep source with
  | true => rfl
  | false =>
    rcases source.preset?_or_record? with ⟨preset, _, _, hgives⟩ | ⟨record, hpreset, _⟩
    · exact absurd hgives (h source hsource hkeep preset)
    · exact hpreset.symm

theorem records_ofSources_filter (keep : String → Bool) (sources : List Source) :
    (ofSources (sources.filter fun source => keep source.name)).2 =
      (ofSources sources).2.filter fun record => record.document?.all keep := by
  rw [records_ofSources, records_ofSources, List.filterMap_filter, List.filter_filterMap]
  refine List.filterMap_congr fun source _ => ?_
  rcases source.preset?_or_record? with ⟨preset, _, hrecord, _⟩ | ⟨record, _, hrecord, hskips⟩
  · rw [hrecord, ite_self]
    rfl
  · rw [hrecord, Option.filter_some, hskips.document, Option.all_some]

end Catalog

/-! ### Folders -/

namespace Storage

/-- The document that an entry of the storage is to a folder. -/
def source? (folder : Path) (entry : Path × Node) : Option Source :=
  ((entry.1.nameIn? folder).filter isDocumentName).map fun name => ⟨name, entry.2.text?⟩

theorem source?_eq_some_iff {folder : Path} {entry : Path × Node} {source : Source} :
    source? folder entry = some source ↔ entry.1.nameIn? folder = some source.name ∧
      isDocumentName source.name = true ∧ entry.2.text? = source.text? := by
  unfold source?
  simp only [Option.map_eq_some_iff, Option.filter_eq_some_iff]
  constructor
  · rintro ⟨name, hname, rfl⟩
    exact ⟨hname.1, hname.2, rfl⟩
  · rintro ⟨hname, hdocument, htext⟩
    exact ⟨source.name, ⟨hname, hdocument⟩, by rw [htext]⟩

theorem nameOrder_trans (first second third : Source)
    (hfirst : decide (first.name ≤ second.name) = true)
    (hsecond : decide (second.name ≤ third.name) = true) :
    decide (first.name ≤ third.name) = true := by
  simp only [decide_eq_true_eq] at *
  exact String.le_trans hfirst hsecond

theorem nameOrder_total (first second : Source) :
    (decide (first.name ≤ second.name) || decide (second.name ≤ first.name)) = true := by
  simpa using String.le_total first.name second.name

theorem sources_eq (storage : Storage) (folder : Path) :
    storage.sources folder = (storage.entries.filterMap (source? folder)).mergeSort
      fun first second => decide (first.name ≤ second.name) :=
  rfl

/-- The documents of a folder, one for each entry, in the order of their names. -/
structure Lists (storage : Storage) (folder : Path) (sources : List Source) : Prop where
  ordered : sources.Pairwise fun first second => first.name ≤ second.name
  mem_iff : ∀ source, source ∈ sources ↔ ∃ entry ∈ storage.entries,
    entry.1.nameIn? folder = some source.name ∧ isDocumentName source.name = true ∧
      entry.2.text? = source.text?
  length_eq : sources.length =
    storage.entries.countP fun entry => (entry.1.nameIn? folder).any isDocumentName

theorem lists_sources (storage : Storage) (folder : Path) :
    storage.Lists folder (storage.sources folder) where
  ordered := by
    have hordered := List.pairwise_mergeSort nameOrder_trans nameOrder_total
      (storage.entries.filterMap (source? folder))
    exact hordered.imp of_decide_eq_true
  mem_iff source := by
    rw [sources_eq, List.mem_mergeSort, List.mem_filterMap]
    simp only [source?_eq_some_iff]
  length_eq := by
    rw [sources_eq, List.length_mergeSort, List.length_filterMap_eq_countP]
    congr 1
    funext entry
    unfold source?
    rw [Option.isSome_map, Option.isSome_filter]

variable {storage : Storage} {folder path : Path} {name : String}

theorem nameIn?_eq_some_iff :
    path.nameIn? folder = some name ↔ path = ⟨folder.rooted, folder.parts ++ [name]⟩ := by
  obtain ⟨rooted, parts⟩ := path
  unfold Path.nameIn?
  rw [Option.ite_none_right_eq_some, Bool.and_eq_true, beq_iff_eq, beq_iff_eq,
    List.getLast?_eq_some_iff, Path.mk.injEq]
  constructor
  · rintro ⟨⟨hrooted, hfolder⟩, front, rfl⟩
    rw [List.dropLast_concat] at hfolder
    exact ⟨hrooted.symm, by rw [hfolder]⟩
  · rintro ⟨rfl, rfl⟩
    exact ⟨⟨rfl, List.dropLast_concat.symm⟩, folder.parts, rfl⟩

/-- Of the documents of a folder none is under another. -/
theorem under_concat (folder : Path) (name other : String) :
    Path.under ⟨folder.rooted, folder.parts ++ [name]⟩ ⟨folder.rooted, folder.parts ++ [other]⟩ =
      (other == name) := by
  have hprefix : [name] <+: [other] ↔ other = name := by simp [List.cons_prefix_cons, eq_comm]
  unfold Path.under
  rw [Bool.eq_iff_iff, beq_self_eq_true, Bool.true_and, List.isPrefixOf_iff_prefix,
    List.prefix_append_right_inj, hprefix, beq_iff_eq]

theorem under_folder (folder : Path) (name : String) :
    Path.under ⟨folder.rooted, folder.parts ++ [name]⟩ folder = false := by
  have hprefix : ¬ folder.parts ++ [name] <+: folder.parts := by
    intro hprefix
    have hlength := hprefix.length_le
    rw [List.length_append, List.length_singleton] at hlength
    omega
  unfold Path.under
  rw [beq_self_eq_true, Bool.true_and, Bool.eq_false_iff, ne_eq, List.isPrefixOf_iff_prefix]
  exact hprefix

/-- Taking a document away takes it from the list of documents. -/
theorem sources_remove (hname : path.nameIn? folder = some name) :
    (storage.remove path).sources folder =
      (storage.sources folder).filter fun source => source.name != name := by
  obtain rfl := nameIn?_eq_some_iff.mp hname
  rw [sources_eq, sources_eq, ← mergeSort_filter nameOrder_trans nameOrder_total]
  unfold remove
  rw [List.filterMap_filter, List.filter_filterMap]
  congr 1
  refine List.filterMap_congr fun entry _ => ?_
  cases hsource : source? folder entry with
  | none => rw [ite_self, Option.filter_none]
  | some source =>
    obtain ⟨hfound, _⟩ := source?_eq_some_iff.mp hsource
    rw [nameIn?_eq_some_iff.mp hfound, under_concat, Option.filter_some]
    rfl

theorem isFolder_remove (hname : path.nameIn? folder = some name) :
    (storage.remove path).isFolder folder = storage.isFolder folder := by
  obtain rfl := nameIn?_eq_some_iff.mp hname
  unfold remove isFolder
  rw [List.any_filter]
  congr 1
  funext entry
  obtain ⟨found, node⟩ := entry
  dsimp only
  by_cases hfound : found = folder
  · rw [hfound, under_folder]
    rfl
  · rw [beq_false_of_ne hfound, Bool.false_and, Bool.and_false]

end Storage

namespace Session

/-- What the documents of the folder come to. -/
def harvest (session : Session) : Catalog × List Record :=
  Catalog.ofSources (session.storage.sources session.folder)

theorem build_eq_ok {session : Session} (h : session.storage.isFolder session.folder = true) :
    session.build = .ok (session.harvest.1,
      session.harvest.2 ++ [.loaded session.harvest.1.size session.folder.text]) :=
  if_pos h

/-- The session after a file or a folder was taken away. -/
def without (session : Session) (path : Path) : Session :=
  { session with storage := session.storage.remove path }

variable {session : Session} {path : Path} {name : String}
  (hname : path.nameIn? session.folder = some name)
  (hnone : ∀ node, (path, node) ∈ session.storage.entries →
    ∀ preset, ¬ Source.Gives ⟨name, node.text?⟩ preset)
include hname hnone

theorem not_gives_of_name_eq {source : Source}
    (hsource : source ∈ session.storage.sources session.folder) (h : source.name = name) :
    ∀ preset, ¬ source.Gives preset := by
  obtain ⟨⟨found, node⟩, hentry, hfound, _, htext⟩ :=
    ((session.storage.lists_sources session.folder).mem_iff source).mp hsource
  subst h
  obtain rfl : found = path :=
    (Storage.nameIn?_eq_some_iff.mp hfound).trans (Storage.nameIn?_eq_some_iff.mp hname).symm
  have hentire : (⟨source.name, node.text?⟩ : Source) = source :=
    congrArg (Source.mk source.name) htext
  exact hentire ▸ hnone node hentry

theorem harvest_without :
    (session.without path).harvest =
      (session.harvest.1, session.harvest.2.filter fun record => record.document? != some name) := by
  have hsources : (session.without path).storage.sources (session.without path).folder =
      (session.storage.sources session.folder).filter fun source => source.name != name :=
    Storage.sources_remove hname
  have hcatalog : (Catalog.ofSources ((session.storage.sources session.folder).filter
      fun source => source.name != name)).1 = session.harvest.1 := by
    refine Catalog.catalog_ofSources_filter fun source hsource hout => ?_
    exact not_gives_of_name_eq hname hnone hsource (by simpa using hout)
  have hrecords := Catalog.records_ofSources_filter (fun document => document != name)
    (session.storage.sources session.folder)
  have hdocument (record : Record) :
      record.document?.all (fun document => document != name) =
        (record.document? != some name) := by
    cases record.document? <;> rfl
  simp only [hdocument] at hrecords
  unfold harvest
  rw [hsources]
  exact Prod.ext hcatalog hrecords

theorem build_without (hfolder : session.storage.isFolder session.folder = true) :
    (session.without path).build = .ok (session.harvest.1,
      (session.harvest.2.filter fun record => record.document? != some name) ++
        [.loaded session.harvest.1.size session.folder.text]) := by
  have hstill : (session.without path).storage.isFolder (session.without path).folder = true :=
    (Storage.isFolder_remove hname).trans hfolder
  rw [build_eq_ok hstill, harvest_without hname hnone]
  rfl

end Session

/-- **The log accounts for every document.** Any documents come to a catalog and to records, and
each of them to one preset or one record, in their order. The documents of a folder do so in the
order of their names, where an unreadable one has a record of its own, and one more record says how
many presets there are. A file that gives no preset can be taken away without any change to the
catalog and to the other records. -/
theorem accounts_for_every_document :
    (∀ documents : List Document, ∃ presets,
      Accounts (documents.map Document.toSource) presets (Catalog.ofDocuments documents).2 ∧
        (Catalog.ofDocuments documents).1.presets.Perm presets ∧
        (Catalog.ofDocuments documents).1.size + (Catalog.ofDocuments documents).2.length =
          documents.length) ∧
    ∀ session : Session, session.storage.isFolder session.folder = true →
      ∃ sources presets catalog records last, session.storage.Lists session.folder sources ∧
        session.build = .ok (catalog, records ++ [last]) ∧ Accounts sources presets records ∧
        catalog.presets.Perm presets ∧ catalog.size + records.length = sources.length ∧
        last.level = .info ∧ last.message =
          "Loaded " ++ toString catalog.size ++ " presets from " ++ session.folder.text ∧
        ∀ path name, path.nameIn? session.folder = some name →
          (∀ node, (path, node) ∈ session.storage.entries →
            ∀ preset, ¬ Source.Gives ⟨name, node.text?⟩ preset) →
          (session.without path).build = .ok (catalog,
            (records.filter fun record => record.document? != some name) ++ [last]) := by
  constructor
  · intro documents
    obtain ⟨presets, haccounts, hperm, hlength⟩ :=
      Catalog.exists_accounts_ofSources (documents.map Document.toSource)
    rw [List.length_map] at hlength
    exact ⟨presets, haccounts, hperm, hlength⟩
  · intro session hfolder
    obtain ⟨presets, haccounts, hperm, hlength⟩ :=
      Catalog.exists_accounts_ofSources (session.storage.sources session.folder)
    refine ⟨_, presets, _, _, _, session.storage.lists_sources session.folder,
      Session.build_eq_ok hfolder, haccounts, hperm, hlength, rfl, rfl, ?_⟩
    intro path name hname hnode
    exact Session.build_without hname hnode hfolder

/-- A folder with a file that is no text, one that is an advanced profile, and one that breaks off;
the file that is no text was there first. -/
def Session.mixedSession : Session :=
  start
    ⟨[(shelf, .folder), (⟨true, ["profiles", "c.tcl"]⟩, .file ⟨#[255]⟩),
      (⟨true, ["profiles", "a.tcl"]⟩, .file Catalog.plainText.toUTF8),
      (⟨true, ["profiles", "b.tcl"]⟩, .file "profile_title".toUTF8)]⟩ shelf none

theorem accounts_for_mixedSession :
    ∃ catalog records last, Session.mixedSession.build = .ok (catalog, records ++ [last]) ∧
      catalog.size + records.length = 3 ∧ last.level = .info ∧
      (Session.mixedSession.without ⟨true, ["profiles", "c.tcl"]⟩).build = .ok (catalog,
        (records.filter fun record => record.document? != some "c.tcl") ++ [last]) := by
  have hfolder : Session.mixedSession.storage.isFolder Session.mixedSession.folder = true := by
    decide +kernel
  obtain ⟨sources, presets, catalog, records, last, hlists, hbuild, _, _, hlength, hlevel, _,
    hwithout⟩ := accounts_for_every_document.2 Session.mixedSession hfolder
  have hthree : sources.length = 3 := hlists.length_eq.trans (by decide +kernel)
  have hunread : ∀ entry ∈ Session.mixedSession.storage.entries,
      entry.1 = ⟨true, ["profiles", "c.tcl"]⟩ → entry.2.text? = none := by
    decide +kernel
  refine ⟨catalog, records, last, hbuild, hlength.trans hthree, hlevel,
    hwithout _ "c.tcl" rfl fun node hnode preset => ?_⟩
  rintro ⟨text, htext, _⟩
  cases htext.symm.trans (hunread _ hnode rfl)

end Espresso
