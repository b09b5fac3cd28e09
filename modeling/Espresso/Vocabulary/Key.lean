import Espresso.Text.Blank
import Espresso.Vocabulary.Kind

/-!
# Keys

The keys the language knows, and for each the kind of value it carries: the properties of a step
and the commands of a profile document. The two vocabularies also differ in where an unquoted word
ends, since a step closes with a brace.
-/

namespace Espresso

/-- The known keys of one place in a document. `endsWord` says which characters end an unquoted
word there. -/
class Vocabulary (K : Type) extends Tagged K where
  kind : K → Kind
  endsWord : Char → Bool

/-- The properties of a step. -/
inductive StepKey where
  | exitIf
  | flow
  | volume
  | maxFlowOrPressureRange
  | transition
  | exitFlowUnder
  | temperature
  | name
  | pressure
  | sensor
  | pump
  | exitType
  | exitFlowOver
  | exitPressureOver
  | maxFlowOrPressure
  | exitPressureUnder
  | seconds
  | weight
  deriving DecidableEq, Repr

/-- The commands of a profile document. -/
inductive CommandKey where
  | advancedShot
  | author
  | beverageType
  | espressoDeclineTime
  | espressoHoldTime
  | espressoPressure
  | espressoTemperature
  | espressoTemperature0
  | espressoTemperature1
  | espressoTemperature2
  | espressoTemperature3
  | espressoTemperatureStepsEnabled
  | finalDesiredShotVolume
  | finalDesiredShotVolumeAdvanced
  | finalDesiredShotVolumeAdvancedCountStart
  | finalDesiredShotWeight
  | finalDesiredShotWeightAdvanced
  | flowProfileDecline
  | flowProfileDeclineTime
  | flowProfileHold
  | flowProfileHoldTime
  | flowProfileMinimumPressure
  | flowProfilePreinfusion
  | flowProfilePreinfusionTime
  | maximumFlow
  | maximumFlowRange
  | maximumFlowRangeAdvanced
  | maximumFlowRangeDefault
  | maximumPressure
  | maximumPressureRange
  | maximumPressureRangeAdvanced
  | maximumPressureRangeDefault
  | preinfusionFlowRate
  | preinfusionGuarantee
  | preinfusionStopPressure
  | preinfusionTime
  | pressureEnd
  | profileHide
  | profileLanguage
  | profileNotes
  | profileTitle
  | settingsProfileType
  | tankDesiredWaterTemperature
  | waterTemperature
  | beanBrand
  | beanType
  | grinderDoseWeight
  | grinderModel
  | grinderSetting
  deriving DecidableEq, Repr

def StepKey.tag : StepKey → String
  | exitIf => "exit_if"
  | flow => "flow"
  | volume => "volume"
  | maxFlowOrPressureRange => "max_flow_or_pressure_range"
  | transition => "transition"
  | exitFlowUnder => "exit_flow_under"
  | temperature => "temperature"
  | name => "name"
  | pressure => "pressure"
  | sensor => "sensor"
  | pump => "pump"
  | exitType => "exit_type"
  | exitFlowOver => "exit_flow_over"
  | exitPressureOver => "exit_pressure_over"
  | maxFlowOrPressure => "max_flow_or_pressure"
  | exitPressureUnder => "exit_pressure_under"
  | seconds => "seconds"
  | weight => "weight"

def CommandKey.tag : CommandKey → String
  | advancedShot => "advanced_shot"
  | author => "author"
  | beverageType => "beverage_type"
  | espressoDeclineTime => "espresso_decline_time"
  | espressoHoldTime => "espresso_hold_time"
  | espressoPressure => "espresso_pressure"
  | espressoTemperature => "espresso_temperature"
  | espressoTemperature0 => "espresso_temperature_0"
  | espressoTemperature1 => "espresso_temperature_1"
  | espressoTemperature2 => "espresso_temperature_2"
  | espressoTemperature3 => "espresso_temperature_3"
  | espressoTemperatureStepsEnabled => "espresso_temperature_steps_enabled"
  | finalDesiredShotVolume => "final_desired_shot_volume"
  | finalDesiredShotVolumeAdvanced => "final_desired_shot_volume_advanced"
  | finalDesiredShotVolumeAdvancedCountStart => "final_desired_shot_volume_advanced_count_start"
  | finalDesiredShotWeight => "final_desired_shot_weight"
  | finalDesiredShotWeightAdvanced => "final_desired_shot_weight_advanced"
  | flowProfileDecline => "flow_profile_decline"
  | flowProfileDeclineTime => "flow_profile_decline_time"
  | flowProfileHold => "flow_profile_hold"
  | flowProfileHoldTime => "flow_profile_hold_time"
  | flowProfileMinimumPressure => "flow_profile_minimum_pressure"
  | flowProfilePreinfusion => "flow_profile_preinfusion"
  | flowProfilePreinfusionTime => "flow_profile_preinfusion_time"
  | maximumFlow => "maximum_flow"
  | maximumFlowRange => "maximum_flow_range"
  | maximumFlowRangeAdvanced => "maximum_flow_range_advanced"
  | maximumFlowRangeDefault => "maximum_flow_range_default"
  | maximumPressure => "maximum_pressure"
  | maximumPressureRange => "maximum_pressure_range"
  | maximumPressureRangeAdvanced => "maximum_pressure_range_advanced"
  | maximumPressureRangeDefault => "maximum_pressure_range_default"
  | preinfusionFlowRate => "preinfusion_flow_rate"
  | preinfusionGuarantee => "preinfusion_guarantee"
  | preinfusionStopPressure => "preinfusion_stop_pressure"
  | preinfusionTime => "preinfusion_time"
  | pressureEnd => "pressure_end"
  | profileHide => "profile_hide"
  | profileLanguage => "profile_language"
  | profileNotes => "profile_notes"
  | profileTitle => "profile_title"
  | settingsProfileType => "settings_profile_type"
  | tankDesiredWaterTemperature => "tank_desired_water_temperature"
  | waterTemperature => "water_temperature"
  | beanBrand => "bean_brand"
  | beanType => "bean_type"
  | grinderDoseWeight => "grinder_dose_weight"
  | grinderModel => "grinder_model"
  | grinderSetting => "grinder_setting"

/-- A property is a number unless it is listed here. -/
def StepKey.kind : StepKey → Kind
  | exitIf => .flag
  | name => .text
  | transition => .transition
  | sensor => .sensor
  | pump => .pump
  | exitType => .exit
  | _ => .number

/-- A command carries a number unless it is listed here. -/
def CommandKey.kind : CommandKey → Kind
  | espressoTemperatureStepsEnabled | preinfusionGuarantee | profileHide => .flag
  | advancedShot | author | profileLanguage | profileNotes | profileTitle | beanBrand
  | beanType | grinderModel | grinderSetting => .text
  | beverageType => .beverage
  | settingsProfileType => .profileType
  | _ => .number

def StepKey.all : List StepKey :=
  [.exitIf, .flow, .volume, .maxFlowOrPressureRange, .transition, .exitFlowUnder, .temperature,
   .name, .pressure, .sensor, .pump, .exitType, .exitFlowOver, .exitPressureOver,
   .maxFlowOrPressure, .exitPressureUnder, .seconds, .weight]

def CommandKey.all : List CommandKey :=
  [.advancedShot, .author, .beverageType, .espressoDeclineTime, .espressoHoldTime,
   .espressoPressure, .espressoTemperature, .espressoTemperature0, .espressoTemperature1,
   .espressoTemperature2, .espressoTemperature3, .espressoTemperatureStepsEnabled,
   .finalDesiredShotVolume, .finalDesiredShotVolumeAdvanced,
   .finalDesiredShotVolumeAdvancedCountStart, .finalDesiredShotWeight,
   .finalDesiredShotWeightAdvanced, .flowProfileDecline, .flowProfileDeclineTime,
   .flowProfileHold, .flowProfileHoldTime, .flowProfileMinimumPressure, .flowProfilePreinfusion,
   .flowProfilePreinfusionTime, .maximumFlow, .maximumFlowRange, .maximumFlowRangeAdvanced,
   .maximumFlowRangeDefault, .maximumPressure, .maximumPressureRange,
   .maximumPressureRangeAdvanced, .maximumPressureRangeDefault, .preinfusionFlowRate,
   .preinfusionGuarantee, .preinfusionStopPressure, .preinfusionTime, .pressureEnd, .profileHide,
   .profileLanguage, .profileNotes, .profileTitle, .settingsProfileType,
   .tankDesiredWaterTemperature, .waterTemperature, .beanBrand, .beanType, .grinderDoseWeight,
   .grinderModel, .grinderSetting]

instance : Vocabulary StepKey where
  all := StepKey.all
  tag := StepKey.tag
  mem_all key := by cases key <;> decide
  tags_nodup := by decide
  kind := StepKey.kind
  endsWord c := Text.isBlank c || c == '}'

instance : Vocabulary CommandKey where
  all := CommandKey.all
  tag := CommandKey.tag
  mem_all key := by cases key <;> decide
  tags_nodup := by decide
  kind := CommandKey.kind
  endsWord := Text.isBlank

end Espresso
