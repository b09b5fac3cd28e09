import Espresso.Proofs.Service.Agreement

/-!
# A page and the tools

The page of a preset and the tools find it in different ways. The page looks it up twice and catches
what goes wrong with its name and with its steps apart; the tools look it up once, read its steps
themselves, and summarize them. Over the same catalog both fail with the same words, or both have
the same to tell.
-/

namespace Espresso

namespace Desk

variable {desk : Desk} {name : String} {failure : Failure}

theorem presetPage_of_unknown (hget : desk.catalog.get name = .error failure) :
    desk.presetPage name = "Error: " ++ failure.message := by
  unfold presetPage
  rw [hget]
  exact excuse_eq failure

theorem analyzePreset_of_unknown (hget : desk.catalog.get name = .error failure) :
    desk.analyzePreset name =
      .error (.invalidRequest ("Failed to analyze preset: " ++ failure.message)) := by
  unfold analyzePreset
  simp [hget, mapError_error, bind, Except.bind]

theorem preset_of_ok {preset : Preset} (hget : desk.catalog.get name = .ok preset) :
    desk.preset name = .ok preset := by
  unfold Desk.preset
  rw [hget]
  rfl

/-- Two desks over one catalog fail alike on a name, or find a preset that can be traced and
summarized. -/
theorem exists_failure_or_traced {front tools : Desk} (hcatalog : front.catalog = tools.catalog)
    (name : String) :
    (∃ failure : Failure, front.presetPage name = "Error: " ++ failure.message ∧
      tools.analyzePreset name =
        .error (.invalidRequest ("Failed to analyze preset: " ++ failure.message))) ∨
    ∃ preset steps timeline summaries, tools.catalog.get name = .ok preset ∧
      tracePreset preset = .ok (steps, timeline) ∧ summarize steps = .ok summaries := by
  cases hget : tools.catalog.get name with
  | error failure =>
    have hfront : front.catalog.get name = .error failure := hcatalog ▸ hget
    exact .inl ⟨failure, presetPage_of_unknown hfront, analyzePreset_of_unknown hget⟩
  | ok preset =>
    have hfront : front.catalog.get name = .ok preset := hcatalog ▸ hget
    cases htrace : tracePreset preset with
    | error failure =>
      exact .inl ⟨failure, presetPage_of_error hfront htrace, analyzePreset_of_error hget htrace⟩
    | ok traced =>
      obtain ⟨summaries, hsummaries⟩ := exists_summarize_eq_ok htrace
      exact .inr ⟨preset, traced.1, traced.2, summaries, rfl, htrace, hsummaries⟩

end Desk

namespace Session

/-- Once the front is open, the tools have a desk over the catalog of the front. -/
structure SharesCatalog (session : Session) (front tools : Desk) : Prop where
  opened : session.front.result = .ok front
  lent : session.front.session.tools? = some tools
  catalog_eq : front.catalog = tools.catalog

/-- The page of a name shows an error just where the tools refuse to analyze it, with the same
message. Otherwise it shows what the tools tell of the preset and of its analysis. -/
structure PageAgrees (session : Session) (name : String) : Prop where
  failed_iff : ∀ message,
    (session.handle (.page (.preset name))).result = .ok (.text ("Error: " ++ message)) ↔
      (session.handle (.query (.analyzePreset name))).result =
        .error (.invalidRequest ("Failed to analyze preset: " ++ message))
  shown : (∀ message,
      (session.handle (.page (.preset name))).result ≠ .ok (.text ("Error: " ++ message))) →
    ∃ preset report,
      (session.handle (.query (.getPreset name))).result = .ok (.preset preset) ∧
      (session.handle (.query (.analyzePreset name))).result = .ok (.report report) ∧
      session.Shows name preset report.timeline

variable {session : Session} {front tools : Desk}

/-- The front need not be opened where it is open. -/
theorem sharesCatalog_of_desks (hfront : session.front? = some front)
    (htools : session.tools? = some tools) (hcatalog : front.catalog = tools.catalog) :
    session.SharesCatalog front tools := by
  have hopen : session.front = session.unchanged (.ok front) := by
    unfold Session.front
    rw [hfront]
  constructor
  · rw [hopen]
    rfl
  · rw [hopen]
    exact htools
  · exact hcatalog

namespace SharesCatalog

theorem result_page (h : session.SharesCatalog front tools) (name : String) :
    (session.handle (.page (.preset name))).result = .ok (.text (front.presetPage name)) :=
  calc (session.handle (.page (.preset name))).result
    _ = session.front.result.bind fun desk => .ok (.text (desk.presetPage name)) := rfl
    _ = .ok (.text (front.presetPage name)) := by rw [h.opened]; rfl

theorem result_query (h : session.SharesCatalog front tools) (query : Query) :
    (session.handle (.query query)).result = tools.answer query :=
  calc (session.handle (.query query)).result
    _ = session.front.result.bind fun _ => session.front.session.toolsAnswer query := rfl
    _ = session.front.session.toolsAnswer query := by rw [h.opened]; rfl
    _ = tools.answer query := by unfold toolsAnswer; rw [h.lent]

end SharesCatalog

/-- **Pages and tools agree.** Wherever the front and the tools have the same catalog, for every
name the page says what the tools say. -/
theorem pageAgrees (h : session.SharesCatalog front tools) (name : String) :
    session.PageAgrees name := by
  have hpage := h.result_page name
  have hanalysis : (session.handle (.query (.analyzePreset name))).result =
      (tools.analyzePreset name).map .report := h.result_query (.analyzePreset name)
  have hpreset : (session.handle (.query (.getPreset name))).result =
      (tools.preset name).map .preset := h.result_query (.getPreset name)
  rcases Desk.exists_failure_or_traced h.catalog_eq name with
    ⟨failure, herror, hrefused⟩ | ⟨preset, steps, timeline, summaries, hget, htrace, hsummaries⟩
  · rw [herror] at hpage
    rw [hrefused] at hanalysis
    constructor
    · intro message
      rw [hpage, hanalysis]
      simp [Except.map]
    · intro hnone
      exact absurd hpage (hnone failure.message)
  · have hfront : front.catalog.get name = .ok preset := h.catalog_eq ▸ hget
    rw [Desk.presetPage_of_ok hfront htrace] at hpage
    rw [Desk.analyzePreset_of_ok hget htrace hsummaries] at hanalysis
    rw [Desk.preset_of_ok hget] at hpreset
    have hshows : session.Shows name preset timeline := shows_iff.mpr hpage
    constructor
    · intro message
      rw [hanalysis]
      exact iff_of_false (hshows.ne_error message) nofun
    · intro _
      exact ⟨preset, _, hpreset, hanalysis, hshows⟩

/-- `brew` is shown, and of a name that is unknown both say so. -/
theorem pageAgrees_brewSession :
    brewSession.PageAgrees "brew" ∧
      (brewSession.handle (.page (.preset "latte"))).result =
        .ok (.text ("Error: " ++ "Unknown preset: latte")) ∧
      (brewSession.handle (.query (.analyzePreset "latte"))).result =
        .error (.invalidRequest ("Failed to analyze preset: " ++ "Unknown preset: latte")) := by
  have hshares : brewSession.SharesCatalog brewDesk brewDesk :=
    sharesCatalog_of_desks rfl rfl rfl
  have hpage : (brewSession.handle (.page (.preset "latte"))).result =
      .ok (.text ("Error: " ++ "Unknown preset: latte")) := by
    have hget : brewDesk.catalog.get "latte" = .error (.unknownPreset "latte") :=
      failure?_eq_some_iff.mp (by decide +kernel)
    rw [hshares.result_page, Desk.presetPage_of_unknown hget]
    rfl
  exact ⟨pageAgrees hshares "brew", hpage,
    ((pageAgrees hshares "latte").failed_iff "Unknown preset: latte").mp hpage⟩

end Session

end Espresso
