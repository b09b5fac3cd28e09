import Espresso.Proofs.Preset.Catalog
import Espresso.Service.Session

/-!
# One document, asked for in four ways

The analysis of an admitted document can be asked for by its name, from the catalog, from a tool and
on a page, and by its text from another tool, which checks the text and reads it anew. All of them
come down to reading the steps of the preset and tracing them.
-/

namespace Espresso

/-! ### Summaries -/

namespace StepSummary

theorem exists_ofStep_eq_ok {step : Step} {essentials : Step.Essentials}
    (h : step.essentials = .ok essentials) (index : Nat) :
    ∃ summary, ofStep index step = .ok summary := by
  obtain ⟨hseconds, htransition, hpump⟩ := Step.essentials_eq_ok_iff.mp h
  unfold ofStep
  rw [hpump, hseconds, htransition]
  exact ⟨_, rfl⟩

/-- Steps that can run can be summarized. -/
theorem exists_ofSteps_eq_ok {steps : List Step}
    (h : ∀ step ∈ steps, ∃ essentials, step.essentials = .ok essentials) :
    ∃ summaries, ofSteps steps = .ok summaries := by
  refine exists_mapM_eq_ok fun pair hpair => ?_
  obtain ⟨essentials, hessentials⟩ := h _ (Text.mem_of_mem_counted hpair)
  exact exists_ofStep_eq_ok hessentials pair.1

end StepSummary

/-! ### Pages -/

/-- An object's text starts with its brace. -/
theorem Json.head?_render_object (fields : List (String × Json)) (depth : Nat) :
    (render depth (.object fields)).toList.head? = some '{' := by
  unfold render bracketed
  split <;> simp

theorem Json.render_object_ne (fields : List (String × Json)) (depth : Nat) (message : String) :
    render depth (.object fields) ≠ "Error: " ++ message := by
  intro h
  have hhead := head?_render_object fields depth
  rw [h, String.toList_append] at hhead
  simp at hhead

/-! ### Tracing a preset -/

namespace Desk

variable {preset : Preset} {steps : List Step} {timeline : Timeline}

theorem tracePreset_eq_ok_iff :
    tracePreset preset = .ok (steps, timeline) ↔
      preset.steps = .ok steps ∧ Timeline.trace steps = .ok timeline := by
  unfold tracePreset
  simp only [bind_eq_ok_iff]
  constructor
  · rintro ⟨_, hsteps, _, htrace, hpair⟩
    cases hpair
    exact ⟨hsteps, htrace⟩
  · rintro ⟨hsteps, htrace⟩
    exact ⟨steps, hsteps, timeline, htrace, rfl⟩

theorem exists_tracePreset_iff :
    (∃ traced, tracePreset preset = .ok traced) ↔
      ∃ steps, preset.steps = .ok steps ∧
        ∀ step ∈ steps, ∃ essentials, step.essentials = .ok essentials := by
  constructor
  · rintro ⟨⟨steps, timeline⟩, h⟩
    obtain ⟨hsteps, htrace⟩ := tracePreset_eq_ok_iff.mp h
    exact ⟨steps, hsteps, Timeline.exists_trace_eq_ok_iff.mp ⟨timeline, htrace⟩⟩
  · rintro ⟨steps, hsteps, hessentials⟩
    obtain ⟨timeline, htrace⟩ := Timeline.exists_trace_eq_ok_iff.mpr hessentials
    exact ⟨⟨steps, timeline⟩, tracePreset_eq_ok_iff.mpr ⟨hsteps, htrace⟩⟩

theorem exists_summarize_eq_ok (h : tracePreset preset = .ok (steps, timeline)) :
    ∃ summaries, summarize steps = .ok summaries := by
  have htrace := (tracePreset_eq_ok_iff.mp h).2
  obtain ⟨summaries, hsummaries⟩ :=
    StepSummary.exists_ofSteps_eq_ok (Timeline.exists_trace_eq_ok_iff.mp ⟨timeline, htrace⟩)
  exact ⟨summaries, mapError_eq_ok_iff.mpr hsummaries⟩

end Desk

theorem Catalog.timeline_eq {catalog : Catalog} {name : String} {preset : Preset}
    (h : catalog.get name = .ok preset) :
    catalog.timeline name = (Desk.tracePreset preset).map Prod.snd := by
  unfold timeline Desk.tracePreset
  rw [h]
  cases hsteps : preset.steps with
  | error failure => simp [hsteps, bind, Except.bind, Except.map]
  | ok steps =>
    cases htrace : Timeline.trace steps <;>
      simp [hsteps, htrace, bind, Except.bind, Except.map, pure, Except.pure]

/-- The steps of a document are those of its preset. -/
theorem Desk.traceProfile_eq {text title notes shot : String} {profile : Profile}
    (h : Profile.Holds text profile title notes shot) (name : String) :
    traceProfile text =
      (tracePreset ⟨name, title, notes, shot⟩).map fun (steps, timeline) =>
        (profile, steps, timeline) := by
  have hsteps : profile.steps = Preset.steps ⟨name, title, notes, shot⟩ := h.steps_eq_readAll
  unfold traceProfile tracePreset
  rw [h.parsed, ← hsteps]
  cases hread : profile.steps with
  | error failure => simp [hread, mapError_ok, bind, Except.bind, Except.map]
  | ok steps =>
    cases htrace : Timeline.trace steps <;>
      simp [hread, htrace, mapError_ok, bind, Except.bind, Except.map, pure, Except.pure]

/-! ### The check before -/

namespace Checker

theorem approve_eq_ok_iff {checker : Checker} {text : String} :
    checker.approve text = .ok () ↔ checker.accepts text = true := by
  unfold approve accepts errors
  cases checker.problems text <;> simp

/-- What a checker does not approve of, it says what is wrong with. -/
theorem exists_approve_eq_error {checker : Checker} {text : String}
    (h : checker.approve text ≠ .ok ()) :
    ∃ message, checker.approve text = .error (.invalid message (checker.errors text)) := by
  unfold approve at h ⊢
  dsimp only at h ⊢
  split at h
  · exact absurd rfl h
  · next hempty =>
    rw [if_neg hempty]
    exact ⟨_, rfl⟩

/-- Of admitted documents the strict checker approves those that can be traced. -/
theorem strict_approve_iff {document : Document} {preset : Preset}
    (h : document.admit = .ok (.admitted preset)) :
    strict.approve document.text = .ok () ↔ ∃ traced, Desk.tracePreset preset = .ok traced := by
  obtain ⟨profile, title, notes, shot, hholds, hadvanced, rfl⟩ :=
    Document.admit_eq_admitted_iff.mp h
  rw [approve_eq_ok_iff, accepts_iff, Desk.exists_tracePreset_iff]
  constructor
  · rintro ⟨other, _, _, othersShot, steps, hother, -, hread, hessentials⟩
    cases hholds.parsed.symm.trans hother.parsed
    cases hholds.shot.symm.trans hother.shot
    exact ⟨steps, Preset.steps_eq_ok_iff.mpr hread, hessentials⟩
  · rintro ⟨steps, hsteps, hessentials⟩
    exact ⟨profile, title, notes, shot, steps, hholds, fun _ => hadvanced,
      Preset.steps_eq_ok_iff.mp hsteps, hessentials⟩

end Checker

/-! ### The answers of a desk -/

namespace Desk

variable {desk : Desk} {name text : String} {preset : Preset} {steps : List Step}
  {timeline : Timeline} {summaries : List StepSummary} {failure : Failure}

theorem analyzePreset_of_ok (hget : desk.catalog.get name = .ok preset)
    (htrace : tracePreset preset = .ok (steps, timeline))
    (hsummaries : summarize steps = .ok summaries) :
    desk.analyzePreset name =
      .ok ⟨timeline, summaries, some preset.name, some preset.title, []⟩ := by
  unfold analyzePreset
  simp [hget, htrace, hsummaries, mapError_ok, bind, Except.bind, pure, Except.pure]

theorem analyzePreset_of_error (hget : desk.catalog.get name = .ok preset)
    (htrace : tracePreset preset = .error failure) :
    desk.analyzePreset name =
      .error (.invalidRequest ("Failed to analyze preset: " ++ failure.message)) := by
  unfold analyzePreset
  simp [hget, htrace, mapError_ok, mapError_error, bind, Except.bind]

theorem presetPage_of_ok (hget : desk.catalog.get name = .ok preset)
    (htrace : tracePreset preset = .ok (steps, timeline)) :
    desk.presetPage name = (preset.toJson timeline).render 0 := by
  unfold presetPage
  rw [Catalog.timeline_eq hget, hget, htrace]
  rfl

theorem excuse_eq (failure : Failure) : excuse failure = "Error: " ++ failure.message := by
  cases failure <;> rfl

theorem presetPage_of_error (hget : desk.catalog.get name = .ok preset)
    (htrace : tracePreset preset = .error failure) :
    desk.presetPage name = "Error: " ++ failure.message := by
  unfold presetPage
  rw [Catalog.timeline_eq hget, hget, htrace]
  exact excuse_eq failure

theorem analyzeProfile_of_ok {profile : Profile} (happrove : desk.checker.approve text = .ok ())
    (htrace : traceProfile text = .ok (profile, steps, timeline))
    (hsummaries : summarize steps = .ok summaries) (label? : Option String) :
    desk.analyzeProfile text label? =
      .ok ⟨timeline, summaries, none, profile.title?, desk.checker.comments text⟩ := by
  unfold analyzeProfile
  simp [happrove, htrace, hsummaries, mapError_ok, bind, Except.bind, pure, Except.pure]

theorem analyzeProfile_of_not_approved (happrove : desk.checker.approve text ≠ .ok ())
    (label? : Option String) :
    desk.analyzeProfile text label? =
      .error (.invalidRequest (advice (desk.checker.errors text))) := by
  obtain ⟨message, hrejected⟩ := Checker.exists_approve_eq_error happrove
  unfold analyzeProfile
  simp [hrejected, mapError_error, bind, Except.bind, Failure.details]

end Desk

/-! ### Agreement -/

namespace Session

/-- The front and the tools have desks over the same catalog, and the tools check strictly. -/
structure Serves (session : Session) (catalog : Catalog) : Prop where
  front : ∃ desk, session.front? = some desk ∧ desk.catalog = catalog
  tools : ∃ desk, session.tools? = some desk ∧ desk.catalog = catalog ∧ desk.checker = .strict

/-- A trace as pages write it: for each segment the times and the values of its two ends. -/
def drawn (trace : Trace) : Json :=
  .array (trace.map fun segment =>
    .array [.number segment.x1, .number segment.y1, .number segment.x2, .number segment.y2])

/-- The page of a name is the text of one object, which holds the four texts of a preset and all
that a timeline tells. -/
def Shows (session : Session) (name : String) (preset : Preset) (timeline : Timeline) : Prop :=
  (session.handle (.page (.preset name))).result = .ok (.text (Json.render 0 (.object
    [("name", .text preset.name), ("title", .text preset.title), ("notes", .text preset.notes),
      ("advanced_shot", .text preset.advancedShot),
      ("analysis", .object
        [("temperature", drawn timeline.temperature), ("pressure", drawn timeline.pressure),
          ("flow", drawn timeline.flow), ("elapsed_time", .number timeline.elapsed)])])))

/-- A document is analyzed, in whatever way it is asked for. -/
structure Analyzes (session : Session) (catalog : Catalog) (document : Document)
    (label? : Option String) (preset : Preset) (timeline : Timeline)
    (summaries : List StepSummary) : Prop where
  ofCatalog : catalog.timeline document.name = .ok timeline
  ofName : (session.handle (.tool (.analyzePreset document.name))).result =
    .ok (.report ⟨timeline, summaries, some document.name, some preset.title, []⟩)
  ofText : (session.handle (.tool (.analyzeProfile document.text label?))).result =
    .ok (.report
      ⟨timeline, summaries, none, some preset.title, Checker.strict.comments document.text⟩)
  ofPage : session.Shows document.name preset timeline
  noError : ∀ message,
    (session.handle (.page (.preset document.name))).result ≠ .ok (.text ("Error: " ++ message))

/-- A document is not analyzed, in whatever way it is asked for. -/
structure Declines (session : Session) (catalog : Catalog) (document : Document)
    (label? : Option String) (failure : Failure) : Prop where
  ofCatalog : catalog.timeline document.name = .error failure
  ofName : (session.handle (.tool (.analyzePreset document.name))).result =
    .error (.invalidRequest ("Failed to analyze preset: " ++ failure.message))
  ofText : (session.handle (.tool (.analyzeProfile document.text label?))).result =
    .error (.invalidRequest (Desk.advice (Checker.strict.errors document.text)))
  ofPage : (session.handle (.page (.preset document.name))).result =
    .ok (.text ("Error: " ++ failure.message))

variable {session : Session} {desk : Desk} {catalog : Catalog} {document : Document}
  {preset : Preset}

theorem result_tool (h : session.tools? = some desk) (query : Query) :
    (session.handle (.tool query)).result = desk.answer query := by
  unfold handle unchanged toolsAnswer
  rw [h]

theorem result_page_preset (h : session.front? = some desk) (name : String) :
    (session.handle (.page (.preset name))).result = .ok (.text (desk.presetPage name)) := by
  unfold handle front unchanged Turn.andThen
  rw [h]
  rfl

theorem shows_iff {name : String} {timeline : Timeline} :
    session.Shows name preset timeline ↔ (session.handle (.page (.preset name))).result =
      .ok (.text ((preset.toJson timeline).render 0)) :=
  Iff.rfl

theorem Shows.ne_error {name : String} {timeline : Timeline}
    (h : session.Shows name preset timeline) (message : String) :
    (session.handle (.page (.preset name))).result ≠ .ok (.text ("Error: " ++ message)) := by
  intro herror
  have hrendered := h.symm.trans herror
  injection hrendered with hanswer
  injection hanswer with htext
  exact Json.render_object_ne _ 0 message htext

theorem analyzes_of_tracePreset (hget : catalog.get document.name = .ok preset)
    (hadmitted : document.admit = .ok (.admitted preset)) (hserves : session.Serves catalog)
    {steps : List Step} {timeline : Timeline} {summaries : List StepSummary}
    (htrace : Desk.tracePreset preset = .ok (steps, timeline))
    (hsummaries : Desk.summarize steps = .ok summaries) (label? : Option String) :
    session.Analyzes catalog document label? preset timeline summaries := by
  obtain ⟨front, hfront, rfl⟩ := hserves.front
  obtain ⟨tools, htools, hcatalog, hstrict⟩ := hserves.tools
  have htoolsGet := hget
  rw [← hcatalog] at htoolsGet
  have happrove := (Checker.strict_approve_iff hadmitted).mpr ⟨_, htrace⟩
  obtain ⟨profile, title, notes, shot, hholds, _, rfl⟩ :=
    Document.admit_eq_admitted_iff.mp hadmitted
  have hprofile : Desk.traceProfile document.text = .ok (profile, steps, timeline) := by
    rw [Desk.traceProfile_eq hholds document.name, htrace]
    rfl
  have hshows : session.Shows document.name ⟨document.name, title, notes, shot⟩ timeline := by
    rw [shows_iff, result_page_preset hfront, Desk.presetPage_of_ok hget htrace]
  constructor
  · rw [Catalog.timeline_eq hget, htrace]
    rfl
  · rw [result_tool htools, Desk.answer, Desk.analyzePreset_of_ok htoolsGet htrace hsummaries]
    rfl
  · rw [← hstrict] at happrove ⊢
    rw [result_tool htools, Desk.answer, Desk.analyzeProfile_of_ok happrove hprofile hsummaries,
      hholds.titled]
    rfl
  · exact hshows
  · exact hshows.ne_error

theorem declines_of_tracePreset (hget : catalog.get document.name = .ok preset)
    (hadmitted : document.admit = .ok (.admitted preset)) (hserves : session.Serves catalog)
    {failure : Failure} (htrace : Desk.tracePreset preset = .error failure)
    (label? : Option String) : session.Declines catalog document label? failure := by
  obtain ⟨front, hfront, rfl⟩ := hserves.front
  obtain ⟨tools, htools, hcatalog, hstrict⟩ := hserves.tools
  have htoolsGet := hget
  rw [← hcatalog] at htoolsGet
  have hrejected : Checker.strict.approve document.text ≠ .ok () := by
    intro happrove
    obtain ⟨traced, htraced⟩ := (Checker.strict_approve_iff hadmitted).mp happrove
    cases htrace.symm.trans htraced
  constructor
  · rw [Catalog.timeline_eq hget, htrace]
    rfl
  · rw [result_tool htools, Desk.answer, Desk.analyzePreset_of_error htoolsGet htrace]
    rfl
  · rw [← hstrict] at hrejected ⊢
    rw [result_tool htools, Desk.answer, Desk.analyzeProfile_of_not_approved hrejected]
    rfl
  · rw [result_page_preset hfront, Desk.presetPage_of_error hget htrace]

/-- **One analysis.** An admitted document of a catalog whose documents have different names is
analyzed in all four ways or in none: by its name from the catalog, by its name and by its text
from the tools, and on its page. All of them give the same timeline, and the tools the same title
and the same summaries. -/
theorem exists_analyzes_or_declines {documents : List Document}
    (hnames : (documents.map Document.name).Nodup) (hdocument : document ∈ documents)
    (hadmitted : document.admit = .ok (.admitted preset))
    (hserves : session.Serves (Catalog.ofDocuments documents).1) (label? : Option String) :
    (∃ timeline summaries, session.Analyzes (Catalog.ofDocuments documents).1 document label?
      preset timeline summaries) ∨
    ∃ failure, session.Declines (Catalog.ofDocuments documents).1 document label? failure := by
  have hget := Catalog.get_ofDocuments hnames hdocument hadmitted
  cases htrace : Desk.tracePreset preset with
  | ok traced =>
    obtain ⟨summaries, hsummaries⟩ := Desk.exists_summarize_eq_ok htrace
    exact .inl ⟨traced.2, summaries,
      analyzes_of_tracePreset hget hadmitted hserves htrace hsummaries label?⟩
  | error failure =>
    exact .inr ⟨failure, declines_of_tracePreset hget hadmitted hserves htrace label?⟩

/-- A document of one step. -/
def brew : Document where
  name := "brew"
  text := "settings_profile_type settings_2c profile_title A profile_notes B " ++
    "advanced_shot \x7b\x7bseconds 5 transition fast pump flow flow 2\x7d\x7d"

def brewPreset : Preset where
  name := "brew"
  title := "A"
  notes := "B"
  advancedShot := "\x7bseconds 5 transition fast pump flow flow 2\x7d\n"

def brewDesk : Desk :=
  ⟨⟨0, (Catalog.ofDocuments [brew]).1⟩, .strict⟩

def brewSession : Session :=
  (start .empty ⟨true, []⟩ none).openFront brewDesk.snapshot

theorem exists_analyzes_brew :
    ∃ timeline summaries, brewSession.Analyzes (Catalog.ofDocuments [brew]).1 brew none brewPreset
      timeline summaries := by
  have hadmitted : brew.admit = .ok (.admitted brewPreset) :=
    toOption_eq_some_iff.mp (by decide +kernel)
  have htraced : (Desk.tracePreset brewPreset).toOption.isSome = true := by decide +kernel
  have hnames : ([brew].map Document.name).Nodup := by simp
  have hserves : brewSession.Serves (Catalog.ofDocuments [brew]).1 :=
    ⟨⟨brewDesk, rfl, rfl⟩, ⟨brewDesk, rfl, rfl, rfl⟩⟩
  have hmem : brew ∈ [brew] := List.mem_singleton_self brew
  rcases exists_analyzes_or_declines hnames hmem hadmitted hserves none with
    hanalyzes | ⟨failure, hdeclines⟩
  · exact hanalyzes
  · have htimeline := Catalog.timeline_eq (Catalog.get_ofDocuments hnames hmem hadmitted)
    rw [hdeclines.ofCatalog] at htimeline
    cases htrace : Desk.tracePreset brewPreset with
    | error failure =>
      rw [htrace] at htraced
      cases htraced
    | ok traced =>
      rw [htrace] at htimeline
      cases htimeline

end Session

end Espresso
