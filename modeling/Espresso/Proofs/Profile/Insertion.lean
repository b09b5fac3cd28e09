import Espresso.Proofs.Grammar.Extension
import Espresso.Proofs.Profile.Lookup

/-!
# Commands that nobody knows

A line with an unknown key and a text in braces may stand anywhere between the lines of a document:
the catalog and the checkers make of the document what they make of it without the line, faults in
the rest included. It only shows where unknown keys are listed and warned of, in its place.
-/

namespace Espresso

/-- Two texts, the second on a line of its own. -/
def Text.stack (upper lower : String) : String :=
  upper ++ "\n" ++ lower

/-- A key and a text in braces. -/
def Command.bracedLine (key inner : String) : String :=
  key ++ " \x7b" ++ inner ++ "\x7d"

theorem Text.toList_stack (upper lower : String) :
    (stack upper lower).toList = upper.toList ++ '\n' :: lower.toList := by
  unfold stack
  rw [String.toList_append, String.toList_append, List.append_assoc]
  rfl

theorem Command.toList_bracedLine (key inner : String) :
    (bracedLine key inner).toList =
      key.toList ++ [' '] ++ ('{' :: inner.toList ++ ['}']) := by
  unfold bracedLine
  simp [String.toList_append]

theorem Profile.body_stack (upper lower : String) :
    body (Text.stack upper lower) = body upper ++ '\n' :: lower.toList := by
  unfold body
  rw [Text.toList_stack]
  exact Text.dropWhile_append_cons (p := fun c => c == '\ufeff') (by decide) upper.toList
    lower.toList

/-- What stands below a document is read by itself, after the commands of the document. -/
theorem Profile.parse_stack {upper : String} {profile : Profile}
    (hparse : Profile.parse upper = .ok profile) (hends : ¬ Command.EndsBare (body upper))
    (lower : String) :
    Profile.parse (Text.stack upper lower) =
      (Command.readAll lower).map fun commands => ⟨profile.commands ++ commands⟩ := by
  have hread := parse_eq_ok_iff.mp hparse
  have hbreak : Text.isBlank '\n' = true := by decide
  rw [parse_eq, body_stack, Reading.readWhole_commands_append hread hends hbreak]
  unfold Command.readAll
  cases Reading.commandReader.readWhole lower.toList <;> rfl

section Line

variable {key inner : String} (hkey : Reading.IsName key.toList)
  (hfresh : ∀ known : CommandKey, known.tag ≠ key) (hinner : Text.Balanced inner.toList)
include hkey hfresh hinner

theorem Command.spelled_bracedLine (p : Prop) :
    Entry.Spelled p (.unknown key inner : Command) (bracedLine key inner).toList := by
  have hspace : Text.AllBlank [' '] := by simp [Text.AllBlank, Text.isBlank]
  have hunknown : ∀ known : CommandKey, (Tagged.tag known).toList ≠ key.toList :=
    fun known hsame => hfresh known (String.toList_inj.mp hsame)
  have hspelled : Entry.Spelled p
      (.unknown (String.ofList key.toList) (String.ofList inner.toList) : Command)
      (key.toList ++ [' '] ++ ('{' :: inner.toList ++ ['}'])) :=
    .unknown hkey hunknown hspace (by simp) (.braced hinner)
  rw [toList_bracedLine]
  rwa [String.ofList_toList, String.ofList_toList] at hspelled

theorem Command.readAll_stack_bracedLine (lower : String) :
    Command.readAll (Text.stack (bracedLine key inner) lower) =
      (Command.readAll lower).map (.unknown key inner :: ·) := by
  have hnone : Text.AllBlank [] := by simp [Text.AllBlank]
  have hline : Text.AllBlank ['\n'] := by simp [Text.AllBlank, Text.isBlank]
  have hstops : Vocabulary.Stops CommandKey ('\n' :: lower.toList) :=
    Reading.stops_cons CommandKey.delimited (by decide) lower.toList
  obtain ⟨hopens, hread⟩ := Reading.readEntry_skipBlanks_append hnone
    (spelled_bracedLine hkey hfresh hinner _) hstops
  rw [List.nil_append] at hopens hread
  unfold Command.readAll
  rw [Text.toList_stack, ItemReader.readWhole_of_opens hopens, hread]
  dsimp only
  rw [← ItemReader.readWhole_append_of_allBlank hline lower.toList]
  rfl

end Line

/-! ### What an unknown command is to those who look -/

theorem Entry.first?_insert_unknown {K : Type} [Vocabulary K] [DecidableEq K] (key : K)
    (name value : String) (before after : List (Entry K)) :
    first? key (before ++ .unknown name value :: after) = first? key (before ++ after) := by
  unfold first?
  rw [List.findSome?_append, List.findSome?_append, List.findSome?_cons_of_isNone (by simp)]

namespace Profile

variable (name value : String) (before after : List Command)

theorem agrees_insert_unknown :
    Agrees ⟨before ++ .unknown name value :: after⟩ ⟨before ++ after⟩ :=
  agrees_of_first?_eq fun key => Entry.first?_insert_unknown key name value before after

theorem isAdvanced_insert_unknown :
    isAdvanced ⟨before ++ .unknown name value :: after⟩ = isAdvanced ⟨before ++ after⟩ := by
  unfold isAdvanced hasType
  rw [List.any_append, List.any_append, List.any_cons, Entry.value?_unknown]
  rfl

theorem unknownKeys_append :
    unknownKeys ⟨before ++ after⟩ = unknownKeys ⟨before⟩ ++ unknownKeys ⟨after⟩ :=
  List.filterMap_append

theorem unknownKeys_insert_unknown :
    unknownKeys ⟨before ++ .unknown name value :: after⟩ =
      unknownKeys ⟨before⟩ ++ name :: unknownKeys ⟨after⟩ :=
  unknownKeys_append before _

end Profile

section Document

variable {front key inner : String} {profile : Profile}

/-- **Unknown commands.** Below a document that can be read and does not end with a bare key, a line
with an unknown key and a text in braces changes neither what the catalog makes of a document nor
its problems. If the whole cannot be read, it fails for the same reason; otherwise its unknown keys,
and the comments of every checker, are those without the line and one more, which comes right after
those of the part above the line. -/
theorem Profile.unknown_line_unnoticed (hparse : Profile.parse front = .ok profile)
    (hends : ¬ Command.EndsBare (body front)) (hkey : Reading.IsName key.toList)
    (hfresh : ∀ known : CommandKey, known.tag ≠ key) (hinner : Text.Balanced inner.toList)
    (back : String) :
    let short := Text.stack front back
    let long := Text.stack front (Text.stack (Command.bracedLine key inner) back)
    (∀ name, Document.admit ⟨name, long⟩ = Document.admit ⟨name, short⟩) ∧
    (∀ checker : Checker, checker.accepts long = checker.accepts short ∧
      checker.errors long = checker.errors short) ∧
    ((∃ error, Profile.parse short = .error error ∧ Profile.parse long = .error error ∧
        ∀ checker : Checker, checker.comments short = [] ∧ checker.comments long = []) ∨
      ∃ whole longer later, Profile.parse short = .ok whole ∧ Profile.parse long = .ok longer ∧
        whole.unknownKeys = profile.unknownKeys ++ later ∧
        longer.unknownKeys = profile.unknownKeys ++ key :: later ∧
        ∀ checker : Checker, ∃ further,
          checker.comments short = profile.unknownKeys.map Warning.unknownComment ++ further ∧
          checker.comments long = profile.unknownKeys.map Warning.unknownComment ++
            Warning.unknownComment key :: further) := by
  intro short long
  have hshort := parse_stack hparse hends back
  have hlong := parse_stack hparse hends (Text.stack (Command.bracedLine key inner) back)
  rw [Command.readAll_stack_bracedLine hkey hfresh hinner] at hlong
  cases hback : Command.readAll back with
  | error error =>
    rw [hback] at hshort hlong
    refine ⟨?_, ?_, .inl ⟨error, hshort, hlong, ?_⟩⟩
    · intro name
      rw [Document.admit_of_error hlong, Document.admit_of_error hshort]
    · intro checker
      apply Checker.verdict_congr
      rw [checker.problems_of_error hlong, checker.problems_of_error hshort]
    · intro checker
      exact ⟨checker.comments_of_error hshort, checker.comments_of_error hlong⟩
  | ok commands =>
    rw [hback] at hshort hlong
    have hagrees := agrees_insert_unknown key inner profile.commands commands
    have hadvanced := isAdvanced_insert_unknown key inner profile.commands commands
    have hkeys := unknownKeys_append profile.commands commands
    have hmoreKeys := unknownKeys_insert_unknown key inner profile.commands commands
    refine ⟨Document.admit_congr hlong hshort hagrees hadvanced, ?_, .inr
      ⟨⟨profile.commands ++ commands⟩, ⟨profile.commands ++ .unknown key inner :: commands⟩,
        unknownKeys ⟨commands⟩, hshort, hlong, hkeys, hmoreKeys, ?_⟩⟩
    · intro checker
      exact Checker.verdict_congr (checker.problems_congr hlong hshort hagrees fun _ => hadvanced)
    · intro checker
      refine ⟨(unknownKeys ⟨commands⟩).map Warning.unknownComment ++
        (checker.furtherWarnings ⟨profile.commands ++ commands⟩).map Warning.message, ?_, ?_⟩
      · rw [checker.comments_eq hshort, hkeys, List.map_append, List.append_assoc]
      · rw [checker.comments_eq hlong, hmoreKeys, List.map_append, List.append_assoc,
          Checker.furtherWarnings_congr hagrees hadvanced]
        rfl

end Document

/-- A document of one command that nobody knows. -/
def Profile.oldText : String :=
  "old 1"

theorem Profile.not_endsBare_oldText : ¬ Command.EndsBare (body oldText) := by
  rintro ⟨start, rest, htakes, -, hbare⟩
  have hread : Reading.commandReader.read (Text.skipBlanks (body oldText)) =
      .ok (.unknown "old" "1", []) := by
    rfl
  cases htakes with
  | first => exact absurd hbare (by decide)
  | later _ hfirst hmore =>
    cases hread.symm.trans hfirst
    cases hmore with
    | first hopens _ => exact absurd hopens (by decide)
    | later hopens _ _ => exact absurd hopens (by decide)

/-- The unknown line goes unnoticed above a command, and above a fault. -/
theorem Profile.exists_unknown_line :
    (∃ longer, Profile.parse (Text.stack oldText
        (Text.stack (Command.bracedLine "note" "a \x7bb\x7d") "new 2")) = .ok longer ∧
      longer.unknownKeys = ["old", "note", "new"]) ∧
    ∃ error, error.remaining = ['!'] ∧
      Profile.parse (Text.stack oldText
        (Text.stack (Command.bracedLine "note" "a \x7bb\x7d") "!")) = .error error := by
  have hold : (Profile.parse oldText).toOption.map Profile.unknownKeys = some ["old"] := by
    decide +kernel
  have hnew : (Profile.parse (Text.stack oldText "new 2")).toOption.map Profile.unknownKeys =
      some ["old", "new"] := by
    decide +kernel
  have hfault : failure? (Profile.parse (Text.stack oldText "!")) =
      some ⟨.malformed .trailing, ['!']⟩ := by
    decide +kernel
  obtain ⟨profile, hparse, hprofile⟩ := Option.map_eq_some_iff.mp hold
  rw [toOption_eq_some_iff] at hparse
  have hkey : Reading.IsName "note".toList := Reading.isName_toList rfl rfl
  have hfresh : ∀ known : CommandKey, known.tag ≠ "note" := by
    intro known
    cases known <;> decide
  have hinner : Text.Balanced "a \x7bb\x7d".toList := by
    rw [← Text.closes_zero_iff]
    simp [Text.closes_other_iff, Text.closes_open_iff, Text.closes_close_iff, Text.closes_nil_iff]
  have hunnoticed := unknown_line_unnoticed hparse not_endsBare_oldText hkey hfresh hinner
  constructor
  · obtain ⟨-, -, ⟨error, hshort, -⟩ | ⟨whole, longer, later, hshort, hlong, hkeys, hmore, -⟩⟩ :=
      hunnoticed "new 2"
    · rw [hshort] at hnew
      cases hnew
    · rw [hshort] at hnew
      have hwhole : whole.unknownKeys = ["old", "new"] := Option.some.inj hnew
      rw [hwhole, hprofile] at hkeys
      have hlater : ["old"] ++ ["new"] = ["old"] ++ later := hkeys
      obtain rfl := List.append_cancel_left hlater
      rw [hprofile] at hmore
      exact ⟨longer, hlong, hmore⟩
  · obtain ⟨-, -, ⟨error, hshort, hlong, -⟩ | ⟨whole, -, -, hshort, -⟩⟩ := hunnoticed "!"
    · cases hshort.symm.trans (failure?_eq_some_iff.mp hfault)
      exact ⟨_, rfl, hlong⟩
    · cases hshort.symm.trans (failure?_eq_some_iff.mp hfault)

end Espresso
