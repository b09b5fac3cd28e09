import Espresso.Proofs.Preset.Collection
import Espresso.Proofs.Service.Turn

/-!
# Desks over one catalog

The catalog and the checker of the front and those of the tools are kept in four places and put
there one at a time. Between events the front has both or none, and the tools have the same ones; so
once the front is open it answers over one catalog until the desks are closed, whatever becomes of
the files, of the folder and of the shared catalog.
-/

namespace Espresso

/-- What a desk answers to the events that are served at the front. -/
def Desk.respond? (desk : Desk) : Event → Option (Except Refusal Answer)
  | .query query => some (desk.answer query)
  | .page .headings => some (.ok (.text desk.headingsPage))
  | .page (.preset name) => some (.ok (.text (desk.presetPage name)))
  | _ => none

namespace Session

variable {session : Session} {event : Event} {snapshot : Snapshot} {inspector : Inspector}

/-! ### Both or none -/

/-- The front has a catalog just when it has a checker, and the tools have the very same ones. -/
structure Synchronized (session : Session) : Prop where
  together : session.frontCatalog?.isSome = session.frontChecker?.isSome
  catalog : session.toolsCatalog? = session.frontCatalog?
  checker : session.toolsChecker? = session.frontChecker?

theorem synchronized_start (storage : Storage) (home : Path) (setting? : Option String) :
    (start storage home setting?).Synchronized :=
  ⟨rfl, rfl, rfl⟩

theorem synchronized_openFront (session : Session) (snapshot : Snapshot) :
    (session.openFront snapshot).Synchronized :=
  ⟨rfl, rfl, rfl⟩

theorem AskShared.synchronized {turn : Turn Snapshot} (h : AskShared session turn)
    (hsession : session.Synchronized) : turn.session.Synchronized := by
  cases h with
  | found | refused => exact hsession
  | built => exact ⟨hsession.together, hsession.catalog, hsession.checker⟩

theorem AskFront.synchronized {turn : Turn Desk} (h : AskFront session turn)
    (hsession : session.Synchronized) : turn.session.Synchronized := by
  cases h with
  | opened => exact hsession
  | opens => exact synchronized_openFront _ _
  | refused => exact session.askShared.synchronized hsession

theorem Handles.synchronized {turn : Turn Answer} (h : Handles session event turn)
    (hsession : session.Synchronized) : turn.session.Synchronized := by
  cases h with
  | atFront => exact session.askFront.synchronized hsession
  | forCatalog => exact session.askShared.synchronized hsession
  | aside => exact hsession
  | outside | dropShared => exact ⟨hsession.together, hsession.catalog, hsession.checker⟩
  | closeDesks => exact ⟨rfl, rfl, rfl⟩

theorem Synchronized.after (hsession : session.Synchronized) {events : List Event}
    (hevents : ∀ event ∈ events, event.isInstall = false) :
    (session.after events).Synchronized :=
  kept_after (fun _ _ hinstall => (handles hinstall).synchronized) hevents hsession

/-! ### An open front -/

/-- All four places hold this catalog and this checker. -/
structure Keeps (session : Session) (snapshot : Snapshot) (inspector : Inspector) : Prop where
  frontCatalog : session.frontCatalog? = some snapshot
  frontChecker : session.frontChecker? = some inspector
  toolsCatalog : session.toolsCatalog? = some snapshot
  toolsChecker : session.toolsChecker? = some inspector

theorem keeps_openFront (session : Session) (snapshot : Snapshot) :
    (session.openFront snapshot).Keeps snapshot ⟨session.appointed, .strict⟩ :=
  ⟨rfl, rfl, rfl, rfl⟩

theorem Keeps.front?_eq (h : session.Keeps snapshot inspector) :
    session.front? = some ⟨snapshot, inspector.checker⟩ := by
  unfold front?
  rw [h.frontCatalog, h.frontChecker]
  rfl

theorem Keeps.tools?_eq (h : session.Keeps snapshot inspector) :
    session.tools? = some ⟨snapshot, inspector.checker⟩ := by
  unfold tools?
  rw [h.toolsCatalog, h.toolsChecker]
  rfl

theorem Keeps.front_eq (h : session.Keeps snapshot inspector) :
    session.front = session.unchanged (.ok ⟨snapshot, inspector.checker⟩) := by
  unfold front
  rw [h.front?_eq]

theorem AskShared.keeps {turn : Turn Snapshot} (h : AskShared session turn)
    (hkeeps : session.Keeps snapshot inspector) : turn.session.Keeps snapshot inspector := by
  cases h with
  | found | refused => exact hkeeps
  | built =>
    exact ⟨hkeeps.frontCatalog, hkeeps.frontChecker, hkeeps.toolsCatalog, hkeeps.toolsChecker⟩

/-- Only closing the desks takes anything from them. -/
theorem Handles.keeps {turn : Turn Answer} (h : Handles session event turn)
    (hevent : event ≠ .closeDesks) (hkeeps : session.Keeps snapshot inspector) :
    turn.session.Keeps snapshot inspector := by
  cases h with
  | atFront =>
    have hfront : session.front.session.Keeps snapshot inspector := by
      rw [hkeeps.front_eq]
      exact hkeeps
    exact hfront
  | forCatalog => exact session.askShared.keeps hkeeps
  | aside => exact hkeeps
  | outside | dropShared =>
    exact ⟨hkeeps.frontCatalog, hkeeps.frontChecker, hkeeps.toolsCatalog, hkeeps.toolsChecker⟩
  | closeDesks => exact absurd rfl hevent

theorem Keeps.after (hkeeps : session.Keeps snapshot inspector) {events : List Event}
    (hevents : ∀ event ∈ events, event.isInstall = false ∧ event ≠ .closeDesks) :
    (session.after events).Keeps snapshot inspector := by
  have hstep (earlier : Session) (event : Event)
      (hevent : event.isInstall = false ∧ event ≠ .closeDesks)
      (hkeeps : earlier.Keeps snapshot inspector) :
      (earlier.handle event).session.Keeps snapshot inspector :=
    (handles hevent.1).keeps hevent.2 hkeeps
  exact kept_after hstep hevents hkeeps

/-! ### Answers -/

/-- The front and the tools answer alike, since the front lends what it answers from. -/
theorem result_handle {desk : Desk} {answer : Except Refusal Answer}
    (hfront : session.front.result = .ok desk) (htools : session.front.session.tools? = some desk)
    (hrespond : desk.respond? event = some answer) : (session.handle event).result = answer := by
  cases event with
  | query query =>
    cases hrespond
    simp only [handle, Turn.andThen, toolsAnswer, hfront, htools]
    rfl
  | page page =>
    cases page with
    | headings =>
      cases hrespond
      simp only [handle, Turn.andThen, hfront, htools]
      rfl
    | preset name =>
      cases hrespond
      simp only [handle, Turn.andThen, hfront]
      rfl
  | tool | reference | explain | shared | dropShared | closeDesks | install | setFolder | put
  | remove => cases hrespond

/-- The front holds the catalog, and what it is asked is answered over it. -/
structure ServedBy (session : Session) (snapshot : Snapshot) : Prop where
  catalog : session.frontCatalog? = some snapshot
  answers : ∀ event answer, Desk.respond? ⟨snapshot, .strict⟩ event = some answer →
    (session.handle event).result = answer

theorem Keeps.servedBy {serial : Nat} (h : session.Keeps snapshot ⟨serial, .strict⟩) :
    session.ServedBy snapshot where
  catalog := h.frontCatalog
  answers event answer hrespond := by
    refine result_handle ?_ ?_ hrespond
    · rw [h.front_eq]
      rfl
    · rw [h.front_eq]
      exact h.tools?_eq

theorem front_eq_of_closed (hfront : session.front? = none)
    (hshared : session.shared.result = .ok snapshot) :
    session.front =
      { result := .ok ⟨snapshot, .strict⟩
        log := session.shared.log
        session := session.shared.session.openFront snapshot } := by
  unfold front
  simp only [hfront, hshared]

theorem session_handle_of_respond? {desk : Desk} {answer : Except Refusal Answer}
    (hrespond : desk.respond? event = some answer) :
    (session.handle event).session = session.front.session := by
  cases event with
  | query => rfl
  | page page => cases page <;> rfl
  | tool | reference | explain | shared | dropShared | closeDesks | install | setFolder | put
  | remove => cases hrespond

/-- Some events lead to the session from its start, and no host brings a catalog on the way. -/
def Reached (session : Session) : Prop :=
  ∃ storage home setting? events, (∀ event ∈ events, event.isInstall = false) ∧
    (start storage home setting?).after events = session

/-- **One snapshot.** Whatever happened so far, the front has both a catalog and a checker or
neither, and the tools have the same ones. Let an event find the front closed and open it over the
shared catalog of that moment. It is answered over this catalog, and so is everything that the front
is asked later, for as long as the desks are not closed. -/
theorem synchronized_and_servedBy (h : session.Reached) :
    session.Synchronized ∧
      ∀ opening snapshot first, session.front? = none → session.shared.result = .ok snapshot →
        Desk.respond? ⟨snapshot, .strict⟩ opening = some first →
        (session.handle opening).result = first ∧
          ∀ between, (∀ event ∈ between, event.isInstall = false ∧ event ≠ .closeDesks) →
            ((session.handle opening).session.after between).ServedBy snapshot := by
  constructor
  · obtain ⟨storage, home, setting?, events, hevents, rfl⟩ := h
    exact (synchronized_start storage home setting?).after hevents
  · intro opening snapshot first hclosed hshared hrespond
    have hfront := front_eq_of_closed hclosed hshared
    have hkeeps := keeps_openFront session.shared.session snapshot
    constructor
    · refine result_handle ?_ ?_ hrespond
      · rw [hfront]
      · rw [hfront]
        exact hkeeps.tools?_eq
    · intro between hbetween
      rw [session_handle_of_respond? hrespond, hfront]
      exact (hkeeps.after hbetween).servedBy

/-- The folder of a service with one document. -/
def shelf : Path :=
  ⟨true, ["profiles"]⟩

def shelfSession : Session :=
  start
    ⟨[(shelf, .folder), (⟨true, ["profiles", "a.tcl"]⟩, .file Catalog.plainText.toUTF8)]⟩ shelf none

theorem sources_shelf :
    shelfSession.storage.sources shelf = [⟨"a.tcl", some Catalog.plainText⟩] := by
  have hfound : (shelfSession.storage.entries.filterMap fun entry =>
      ((entry.1.nameIn? shelf).filter Storage.isDocumentName).map fun name =>
        (⟨name, entry.2.text?⟩ : Source)) = [⟨"a.tcl", some Catalog.plainText⟩] := by
    decide +kernel
  unfold Storage.sources
  simp only [hfound]
  exact List.mergeSort_singleton _

theorem answer_listPresets_shelf :
    Desk.answer ⟨shelfSession.offer, .strict⟩ .listPresets =
      .ok (.headings [⟨"a.tcl", "T"⟩]) := by
  have hjudge : [(⟨"a.tcl", some Catalog.plainText⟩ : Source)].map Source.judge =
      [.ok (Catalog.plainPreset "a.tcl")] := by
    simp only [List.map_cons, List.map_nil, List.cons.injEq, and_true]
    exact toOption_eq_some_iff.mp (by decide +kernel)
  have hsources : shelfSession.storage.sources shelfSession.folder =
      [⟨"a.tcl", some Catalog.plainText⟩] := sources_shelf
  unfold Desk.answer Desk.headings Desk.catalog offer
  rw [hsources]
  unfold Catalog.ofSources Catalog.ofPresets
  rw [hjudge]
  simp [Except.toOption, Preset.heading, Catalog.plainPreset]

/-- The list of presets stays the same when the shared catalog is dropped, the folder is removed and
another one is set. -/
theorem listPresets_shelfSession :
    shelfSession.Reached ∧
      (shelfSession.handle (.query .listPresets)).result = .ok (.headings [⟨"a.tcl", "T"⟩]) ∧
      (((shelfSession.handle (.query .listPresets)).session.after
        [.dropShared, .remove shelf, .setFolder (some "/away")]).handle
          (.query .listPresets)).result = .ok (.headings [⟨"a.tcl", "T"⟩]) := by
  have hreached : shelfSession.Reached := ⟨_, _, _, [], by simp, rfl⟩
  have hshared : shelfSession.shared.result = .ok shelfSession.offer := by
    have hfolder : shelfSession.storage.isFolder shelfSession.folder = true := by decide +kernel
    have hask := shelfSession.askShared
    generalize shelfSession.shared = turn at hask ⊢
    cases hask with
    | found hfound => cases hfound
    | built => rfl
    | refused _ hnone =>
      rw [hfolder] at hnone
      cases hnone
  obtain ⟨-, hopening⟩ := synchronized_and_servedBy hreached
  obtain ⟨hfirst, hlater⟩ := hopening (.query .listPresets) shelfSession.offer _ rfl hshared rfl
  have hserved := hlater [.dropShared, .remove shelf, .setFolder (some "/away")]
    (by simp [Event.isInstall])
  refine ⟨hreached, ?_, ?_⟩
  · rw [hfirst, answer_listPresets_shelf]
  · rw [hserved.answers (.query .listPresets) _ rfl, answer_listPresets_shelf]

end Session

end Espresso
