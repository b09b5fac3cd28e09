import Espresso.Proofs.Grammar.Tag
import Espresso.Proofs.Grammar.Token
import Espresso.Proofs.Result

/-!
# The longest token

Numbers and tags are read by the longest token in front of a text, whatever follows it. The reader
of numbers has no list of tokens to choose from: it stops where a numeral cannot be gone on with,
and that is the end of the longest one.
-/

namespace Espresso

namespace Reading

variable {α : Type} {spells written : α → List Char → Prop} {fault : Fault} {text : List Char}

/-- No token in front of the text is longer. -/
def IsLongest (spells : α → List Char → Prop) (text token : List Char) : Prop :=
  ∀ value longer, spells value longer → longer <+: text → longer.length ≤ token.length

/-- The longest token in front of the text is taken, as the value that it spells; where there is no
token, the whole text is left. -/
structure TakesLongest (spells : α → List Char → Prop) (fault : Fault) (text : List Char)
    (reading : Reading α) : Prop where
  ok_iff : ∀ value rest, reading = .ok (value, rest) ↔
    ∃ token, text = token ++ rest ∧ spells value token ∧ IsLongest spells text token
  succeeds_iff : (∃ value rest, reading = .ok (value, rest)) ↔
    ∃ value token, spells value token ∧ token <+: text
  error_iff : ∀ error, reading = .error error ↔
    error = ⟨fault, text⟩ ∧ ¬ ∃ value token, spells value token ∧ token <+: text

/-- The recursion is on how much longer than the token the text is. -/
theorem exists_isLongest {value : α} {token : List Char} (h : spells value token)
    (hfront : token <+: text) :
    ∃ other longest, spells other longest ∧ longest <+: text ∧ IsLongest spells text longest := by
  by_cases hlongest : IsLongest spells text token
  · exact ⟨value, token, h, hfront, hlongest⟩
  · obtain ⟨other, longer, hother, hlonger, hlength⟩ : ∃ other longer, spells other longer ∧
        longer <+: text ∧ token.length < longer.length := by
      simpa [IsLongest] using hlongest
    have hbound := hlonger.length_le
    exact exists_isLongest hother hlonger
termination_by text.length - token.length

/-- There is a longest token as soon as there is one, so it is enough to know what is taken. -/
theorem TakesLongest.of_ok_iff {reading : Reading α}
    (hok : ∀ value rest, reading = .ok (value, rest) ↔
      ∃ token, text = token ++ rest ∧ spells value token ∧ IsLongest spells text token)
    (herror : ∀ error, reading = .error error → error = ⟨fault, text⟩) :
    TakesLongest spells fault text reading := by
  have hsucceeds : (∃ value rest, reading = .ok (value, rest)) ↔
      ∃ value token, spells value token ∧ token <+: text := by
    constructor
    · rintro ⟨value, rest, hread⟩
      obtain ⟨token, rfl, hspells, _⟩ := (hok value rest).mp hread
      exact ⟨value, token, hspells, List.prefix_append token rest⟩
    · rintro ⟨value, token, hspells, hfront⟩
      obtain ⟨other, longest, hother, ⟨rest, rfl⟩, hlongest⟩ := exists_isLongest hspells hfront
      exact ⟨other, rest, (hok other rest).mpr ⟨longest, rfl, hother, hlongest⟩⟩
  refine ⟨hok, hsucceeds, fun error => ?_⟩
  rw [← hsucceeds]
  cases reading with
  | ok pair =>
    simp only [reduceCtorEq, false_iff]
    exact fun h => h.2 ⟨pair.1, pair.2, rfl⟩
  | error found =>
    rw [herror found rfl]
    simp [eq_comm]

theorem TakesLongest.congr {reading : Reading α} (h : TakesLongest spells fault text reading)
    (hspells : ∀ value token, spells value token ↔ written value token) :
    TakesLongest written fault text reading := by
  have hsame : spells = written := by
    funext value token
    exact propext (hspells value token)
  rwa [hsame] at h

end Reading

/-! ### Numbers -/

namespace Decimal.Numeral

variable {numeral : Numeral} {token rest : List Char} {c : Char}

theorem not_mem_of_digits {digits : List Char} (h : ∀ c ∈ digits, c.isDigit = true) :
    '.' ∉ digits :=
  fun hmem => absurd (h _ hmem) (by decide)

theorem Spelled.continuesNumeral (h : numeral.Spelled token) :
    ∀ c ∈ token, continuesNumeral c = true := by
  have hdigit : ∀ {digits : List Char}, (∀ c ∈ digits, c.isDigit = true) →
      ∀ c ∈ digits, Decimal.continuesNumeral c = true :=
    fun hdigits c hc => by simp [Decimal.continuesNumeral, hdigits c hc]
  have hpoint : Decimal.continuesNumeral '.' = true := rfl
  cases h with
  | whole _ hwhole => exact hdigit hwhole
  | pointed _ hwhole hfraction =>
    intro c hc
    rcases List.mem_append.mp hc with hc | hc
    · exact hdigit hwhole c hc
    · rcases List.mem_cons.mp hc with rfl | hc
      · exact hpoint
      · exact hdigit hfraction c hc
  | leading _ hfraction =>
    intro c hc
    rcases List.mem_cons.mp hc with rfl | hc
    · exact hpoint
    · exact hdigit hfraction c hc

theorem Spelled.count_point_le (h : numeral.Spelled token) : token.count '.' ≤ 1 := by
  have hnone : ∀ {digits : List Char}, (∀ c ∈ digits, c.isDigit = true) → digits.count '.' = 0 :=
    fun hdigits => List.count_eq_zero.mpr (not_mem_of_digits hdigits)
  cases h with
  | whole _ hwhole => simp [hnone hwhole]
  | pointed _ hwhole hfraction => simp [hnone hwhole, hnone hfraction]
  | leading _ hfraction => simp [hnone hfraction]

/-- A digit goes on with any numeral. -/
theorem Spelled.concat_digit (h : numeral.Spelled token) (hc : c.isDigit = true) :
    ∃ longer : Numeral, longer.Spelled (token ++ [c]) := by
  have hdigits : ∀ {digits : List Char}, (∀ d ∈ digits, d.isDigit = true) →
      ∀ d ∈ digits ++ [c], d.isDigit = true := by
    intro digits h d hd
    rcases List.mem_append.mp hd with hd | hd
    · exact h d hd
    · rwa [List.mem_singleton.mp hd]
  cases h with
  | whole _ hwhole => exact ⟨_, .whole (by simp) (hdigits hwhole)⟩
  | pointed hne hwhole hfraction =>
    rw [List.append_assoc, List.cons_append]
    exact ⟨_, .pointed hne hwhole (hdigits hfraction)⟩
  | leading _ hfraction =>
    rw [List.cons_append]
    exact ⟨_, .leading (by simp) (hdigits hfraction)⟩

/-- A point goes on with a numeral that has none. -/
theorem Spelled.concat_point (h : numeral.Spelled token) (hnone : '.' ∉ token) :
    ∃ longer : Numeral, longer.Spelled (token ++ ['.']) := by
  cases h with
  | whole hne hwhole => exact ⟨_, .pointed hne hwhole (by simp)⟩
  | pointed _ _ _ => simp at hnone
  | leading _ _ => simp at hnone

/-- No numeral goes on where another one stops: it would need a second point. -/
theorem Stops.not_spelled (hstops : Stops token (c :: rest)) (more : List Char) :
    ¬ numeral.Spelled (token ++ c :: more) := by
  intro hspelled
  have hdigit : c.isDigit = false := by simpa using hstops.digit
  have hpoint : c = '.' := by
    have hcontinues := hspelled.continuesNumeral c (by simp)
    simpa [Decimal.continuesNumeral, hdigit] using hcontinues
  subst hpoint
  rcases hstops.point with hmem | hhead
  · have hcount := hspelled.count_point_le
    have hpositive := List.count_pos_iff.mpr hmem
    simp only [List.count_append, List.count_cons_self] at hcount
    omega
  · exact hhead rfl

/-- A numeral cannot be gone on with exactly if no longer one stands in front of the text. -/
theorem Spelled.stops_iff (h : numeral.Spelled token) :
    Stops token rest ↔ Reading.IsLongest SpellsValue (token ++ rest) token := by
  constructor
  · rintro hstops value longer ⟨other, hother, -⟩ hfront
    refine Nat.le_of_not_lt fun hlength => ?_
    obtain ⟨more, rfl⟩ := List.prefix_of_prefix_length_le (List.prefix_append token rest) hfront
      (Nat.le_of_lt hlength)
    cases more with
    | nil => simp at hlength
    | cons c more =>
      obtain ⟨after, hafter⟩ := hfront
      have hrest : rest = c :: (more ++ after) := by simpa using hafter.symm
      rw [hrest] at hstops
      exact hstops.not_spelled more hother
  · intro hlongest
    cases rest with
    | nil => exact ⟨rfl, .inr (by simp)⟩
    | cons c after =>
      have hstuck : ¬ ∃ longer : Numeral, longer.Spelled (token ++ [c]) := by
        rintro ⟨longer, hlonger⟩
        have hlength := hlongest _ _ hlonger.spellsValue (by simp)
        simp only [List.length_append, List.length_singleton] at hlength
        omega
      refine ⟨?_, ?_⟩
      · cases hdigit : c.isDigit with
        | false => simpa using hdigit
        | true => exact absurd (h.concat_digit hdigit) hstuck
      · by_cases hmem : '.' ∈ token
        · exact .inl hmem
        · refine .inr fun hhead => ?_
          obtain rfl : c = '.' := by simpa using hhead
          exact hstuck (h.concat_point hmem)

end Decimal.Numeral

namespace Reading

theorem takesLongest_readNumber (text : List Char) :
    TakesLongest Decimal.Numeral.SpellsValue (.malformed .number) text (readNumber text) := by
  apply TakesLongest.of_ok_iff
  · intro value rest
    unfold readNumber
    constructor
    · intro h
      split at h
      · next numeral left hread =>
        cases h
        obtain ⟨token, rfl, hspelled, hstops⟩ := Decimal.Numeral.read?_eq_some_iff.mp hread
        exact ⟨token, rfl, hspelled.spellsValue, hspelled.stops_iff.mp hstops⟩
      · exact absurd h stuck_ne_ok
    · rintro ⟨token, rfl, hspells, hlongest⟩
      obtain ⟨numeral, hspelled, rfl⟩ := hspells.exists_value_eq
      rw [Decimal.Numeral.read?_append hspelled (hspelled.stops_iff.mpr hlongest)]
  · intro error h
    unfold readNumber at h
    split at h
    · cases h
    · cases h
      rfl

end Reading

/-! ### Tags -/

namespace Tagged

variable {α : Type} [Tagged α] {member : α} {token : List Char}

/-- What is said of a text that starts with no tag of the family. -/
def noTag (α : Type) [Tagged α] (text : List Char) : Fault :=
  .unrecognized (String.ofList (Reading.tagLike text)) (tags α)

theorem Named.takesLongest (hnamed : Named α) (text : List Char) :
    Reading.TakesLongest (Spelled : α → List Char → Prop) (noTag α text) text
      (Reading.readTag text) := by
  refine .of_ok_iff (fun _ _ => hnamed.readTag_eq_ok_iff) fun error h => ?_
  rw [readTag_eq] at h
  split at h
  · cases h
  · cases h
    rfl

theorem Plain.spelled_iff (hplain : Plain α) :
    Spelled member token ↔ token = (tag member).toList := by
  constructor
  · rintro ⟨spelling, hmem, hspelling⟩
    rw [mem_spellings_iff, hplain.aliases_eq_nil] at hmem
    obtain rfl : spelling = tag member := by simpa using hmem
    simpa [hplain.ignoresCase_eq_false] using hspelling
  · rintro rfl
    exact hplain.spelled_tag member

/-- The longest tag in front of the text is read, letter by letter. -/
def TakesTag (α : Type) [Tagged α] (text : List Char) : Prop :=
  Reading.TakesLongest (fun (member : α) token => token = (tag member).toList) (noTag α text) text
    (Reading.readTag text)

theorem Plain.takesTag (hplain : Plain α) (text : List Char) : TakesTag α text :=
  (hplain.named.takesLongest text).congr fun _ _ => hplain.spelled_iff

end Tagged

/-- The tag of the beverage, or plain tea, in either case of the letters of ASCII. -/
def Beverage.Written (beverage : Beverage) (token : List Char) : Prop :=
  token.map Char.toLower = beverage.tag.toList ∨
    beverage = .teaPortafilter ∧ token.map Char.toLower = "tea".toList

theorem Beverage.spelled_iff_written {beverage : Beverage} {token : List Char} :
    Tagged.Spelled beverage token ↔ beverage.Written token := by
  have haliases : ∀ spelling : String,
      (spelling, beverage) ∈ (Tagged.aliases : List (String × Beverage)) ↔
        beverage = .teaPortafilter ∧ spelling = "tea" := by
    intro spelling
    simp [Tagged.aliases, and_comm]
  simp only [Tagged.Spelled, Tagged.mem_spellings_iff, haliases]
  constructor
  · rintro ⟨spelling, rfl | ⟨hbeverage, rfl⟩, hspelling⟩
    · exact .inl hspelling
    · exact .inr ⟨hbeverage, hspelling⟩
  · rintro (htag | ⟨hbeverage, htea⟩)
    · exact ⟨_, .inl rfl, htag⟩
    · exact ⟨_, .inr ⟨hbeverage, rfl⟩, htea⟩

namespace Reading

/-- **The longest token.** The reader of numbers takes the longest numeral in front of a text, as the
double nearest to the number that it stands for, which has no sign and is a number; and each reader
of tags takes the longest tag of its family. Beverages may be written in either case of the letters
of ASCII, and tea without its portafilter. What is left is the text as it was written, and all of it
where the reader fails. -/
theorem takes_longest_token (text : List Char) :
    TakesLongest Decimal.Numeral.SpellsValue (.malformed .number) text (readNumber text) ∧
    (∀ value token, Decimal.Numeral.SpellsValue value token →
      Decimal.IsMagnitude value ∧ 0.0 ≤ value ∧ value.isNaN = false) ∧
    Tagged.TakesTag Transition text ∧ Tagged.TakesTag Sensor text ∧ Tagged.TakesTag Pump text ∧
    Tagged.TakesTag Exit text ∧ Tagged.TakesTag ProfileType text ∧
    TakesLongest Beverage.Written (Tagged.noTag Beverage text) text (readTag text) := by
  refine ⟨takesLongest_readNumber text, ?_, Tagged.plain_transition.takesTag text,
    Tagged.plain_sensor.takesTag text, Tagged.plain_pump.takesTag text,
    Tagged.plain_exit.takesTag text, Tagged.plain_profileType.takesTag text, ?_⟩
  · intro value token hspells
    have hvalue := hspells.isMagnitude
    exact ⟨hvalue, hvalue.zero_le, hvalue.isNaN_eq_false⟩
  · exact (Tagged.named_beverage.takesLongest text).congr fun _ _ => Beverage.spelled_iff_written

/-- A numeral ends with its point, a tag is not taken for one that it goes on with, and the capital
I with a dot above is no letter of a beverage. -/
theorem takes_longest_token_samples :
    (∃ value, readNumber "5.e3".toList = .ok (value, "e3".toList) ∧ value.isNaN = false) ∧
    IsLongest (fun (type : ProfileType) token => token = type.tag.toList) "settings_2c2x".toList
      "settings_2c2".toList ∧
    IsLongest Beverage.Written "TeA_pot".toList "TeA".toList ∧
    ¬ ∃ beverage token, Beverage.Written beverage token ∧ token <+: "f\u0130lter".toList := by
  have hnumber : (readNumber "5.e3".toList).toOption.map Prod.snd = some "e3".toList := by
    decide +kernel
  have htype : (readTag "settings_2c2x".toList).toOption =
      some (ProfileType.settings2c2, "x".toList) := by
    decide +kernel
  have htea : (readTag "TeA_pot".toList).toOption =
      some (Beverage.teaPortafilter, "_pot".toList) := by
    decide +kernel
  have hfilter : failure? (readTag "f\u0130lter".toList : Reading Beverage) =
      some ⟨Tagged.noTag Beverage "f\u0130lter".toList, "f\u0130lter".toList⟩ := by
    decide +kernel
  refine ⟨?_, ?_, ?_, ?_⟩
  · obtain ⟨⟨value, rest⟩, hread, rfl⟩ := Option.map_eq_some_iff.mp hnumber
    rw [toOption_eq_some_iff] at hread
    obtain ⟨hnumbers, hvalues, -⟩ := takes_longest_token "5.e3".toList
    obtain ⟨token, -, hspells, -⟩ := (hnumbers.ok_iff _ _).mp hread
    exact ⟨value, hread, (hvalues _ _ hspells).2.2⟩
  · obtain ⟨-, -, -, -, -, -, htypes, -⟩ := takes_longest_token "settings_2c2x".toList
    obtain ⟨token, -, rfl, hlongest⟩ := (htypes.ok_iff _ _).mp (toOption_eq_some_iff.mp htype)
    exact hlongest
  · obtain ⟨-, -, -, -, -, -, -, hbeverages⟩ := takes_longest_token "TeA_pot".toList
    obtain ⟨token, htext, -, hlongest⟩ := (hbeverages.ok_iff _ _).mp (toOption_eq_some_iff.mp htea)
    have htoken : "TeA".toList = token := List.append_cancel_right htext
    rwa [htoken]
  · obtain ⟨-, -, -, -, -, -, -, hbeverages⟩ := takes_longest_token "f\u0130lter".toList
    exact ((hbeverages.error_iff _).mp (failure?_eq_some_iff.mp hfilter)).2

end Reading

end Espresso
