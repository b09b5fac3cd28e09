import Espresso.Preset.Admission

/-!
# Bundled profiles

The profile documents that come with the program, in the order of their file names.
-/

namespace Espresso.Bundled

def ofLines (name : String) (lines : List String) : Document :=
  ⟨name, String.join (lines.map (· ++ "\n"))⟩

def bloomingEspresso : Document :=
  ofLines "blooming_espresso.tcl" [
    "advanced_shot \x7b\x7bexit_if 1 flow 4 volume 100 max_flow_or_pressure_range 0.6 " ++
      "transition fast exit_flow_under 0 temperature 92.00 name \x7bFill\x7d pressure 1 " ++
      "sensor coffee pump flow exit_type pressure_over exit_flow_over 6 exit_pressure_over " ++
      "3.0 max_flow_or_pressure 0 exit_pressure_under 0 seconds 23.00\x7d " ++
      "\x7bexit_if 1 flow 0 volume 100 max_flow_or_pressure_range 0.6 transition fast " ++
      "exit_flow_under 0 temperature 92.00 name \x7bBloom\x7d pressure 1 sensor coffee pump " ++
      "flow exit_type pressure_under exit_flow_over 6 exit_pressure_over 11 " ++
      "max_flow_or_pressure 0 exit_pressure_under 0.5 seconds 30.00\x7d " ++
      "\x7bexit_if 1 flow 2.2 volume 100 max_flow_or_pressure_range 0.6 transition smooth " ++
      "exit_flow_under 0 temperature 92.00 name \x7bRamp\x7d pressure 6 sensor coffee pump " ++
      "flow exit_type pressure_over exit_flow_over 6 exit_pressure_over 8.5 " ++
      "max_flow_or_pressure 0 exit_pressure_under 0 seconds 5.00\x7d " ++
      "\x7bexit_if 0 flow 2.2 volume 100 max_flow_or_pressure_range 0.6 transition fast " ++
      "exit_flow_under 0 temperature 92.00 name \x7bExtraction\x7d pressure 9 sensor coffee " ++
      "pump flow exit_flow_over 6 exit_pressure_over 11 max_flow_or_pressure 9.5 " ++
      "exit_pressure_under 0 seconds 60.00\x7d\x7d",
    "author Decent",
    "beverage_type espresso",
    "espresso_decline_time 0",
    "espresso_hold_time 25",
    "espresso_pressure 8.6",
    "espresso_temperature 92.00",
    "espresso_temperature_0 92.00",
    "espresso_temperature_1 92.00",
    "espresso_temperature_2 92.00",
    "espresso_temperature_3 92.00",
    "espresso_temperature_steps_enabled 0",
    "final_desired_shot_volume 36",
    "final_desired_shot_volume_advanced 0",
    "final_desired_shot_volume_advanced_count_start 2",
    "final_desired_shot_weight 36",
    "final_desired_shot_weight_advanced 50",
    "flow_profile_decline 1.2",
    "flow_profile_decline_time 17",
    "flow_profile_hold 2",
    "flow_profile_hold_time 8",
    "flow_profile_minimum_pressure 4",
    "flow_profile_preinfusion 4",
    "flow_profile_preinfusion_time 5",
    "maximum_flow 0",
    "maximum_flow_range_advanced 0.6",
    "maximum_flow_range_default 1.0",
    "maximum_pressure 0",
    "maximum_pressure_range_advanced 0.6",
    "maximum_pressure_range_default 0.9",
    "preinfusion_flow_rate 4",
    "preinfusion_guarantee 0",
    "preinfusion_stop_pressure 4",
    "preinfusion_time 20",
    "pressure_end 6",
    "profile_hide 0",
    "profile_language en",
    "profile_notes \x7bFill the basket, then let the puck bloom with the pump idle until " ++
      "pressure decays. Extraction follows at a steady flow of 2.2 mL/s.\x7d",
    "profile_title \x7bBlooming espresso\x7d",
    "settings_profile_type settings_2c",
    "tank_desired_water_temperature 0"]

def defaultProfile : Document :=
  ofLines "default.tcl" [
    "advanced_shot \x7b\x7d",
    "author Decent",
    "beverage_type espresso",
    "espresso_decline_time 30",
    "espresso_hold_time 10",
    "espresso_pressure 8.6",
    "espresso_temperature 92.00",
    "final_desired_shot_weight 36",
    "preinfusion_flow_rate 4",
    "preinfusion_stop_pressure 4",
    "preinfusion_time 20",
    "pressure_end 6.0",
    "profile_hide 0",
    "profile_language en",
    "profile_notes \x7bA pressure profile with a gentle preinfusion, a hold at 8.6 bar and " ++
      "a decline to 6 bar.\x7d",
    "profile_title \x7bDefault\x7d",
    "settings_profile_type settings_2a",
    "tank_desired_water_temperature 0"]

def filter21 : Document :=
  ofLines "filter_2_1.tcl" [
    "advanced_shot \x7b\x7bexit_if 1 flow 8 volume 100 max_flow_or_pressure_range 0.6 " ++
      "transition fast exit_flow_under 3 temperature 98.00 name \x7bPrewet\x7d pressure 1 " ++
      "sensor water pump flow exit_type flow_under exit_flow_over 6 exit_pressure_over 11 " ++
      "max_flow_or_pressure 0 exit_pressure_under 0 seconds 4.00\x7d " ++
      "\x7bexit_if 0 flow 0 volume 100 max_flow_or_pressure_range 0.6 transition fast " ++
      "exit_flow_under 0 temperature 98.00 name \x7bRest\x7d pressure 1 sensor water pump " ++
      "flow exit_flow_over 6 exit_pressure_over 11 max_flow_or_pressure 0 exit_pressure_under " ++
      "0 seconds 30.00\x7d " ++
      "\x7bexit_if 0 flow 3 volume 100 max_flow_or_pressure_range 0.6 transition fast " ++
      "exit_flow_under 0 temperature 98.00 name \x7b3 mL/s\x7d pressure 1 sensor water pump " ++
      "flow exit_flow_over 6 exit_pressure_over 11 max_flow_or_pressure 0 exit_pressure_under " ++
      "0 seconds 60.00\x7d\x7d",
    "author Decent",
    "beverage_type pourover",
    "espresso_temperature 98.00",
    "espresso_temperature_steps_enabled 0",
    "final_desired_shot_weight_advanced 100",
    "profile_hide 0",
    "profile_language en",
    "profile_notes \x7bFilter coffee in the espresso basket.",
    "",
    "Prewet the puck, rest, then pour at a gentle 3 mL/s.\x7d",
    "profile_title \x7bFilter 2.1\x7d",
    "settings_profile_type settings_2c",
    "tank_desired_water_temperature 0"]

def flowProfileForStraightEspresso : Document :=
  ofLines "flow_profile_for_straight_espresso.tcl" [
    "advanced_shot \x7b\x7d",
    "author Decent",
    "beverage_type espresso",
    "espresso_temperature 88.00",
    "flow_profile_decline 1.2",
    "flow_profile_decline_time 17",
    "flow_profile_hold 2",
    "flow_profile_hold_time 8",
    "flow_profile_minimum_pressure 4",
    "flow_profile_preinfusion 4",
    "flow_profile_preinfusion_time 5",
    "final_desired_shot_weight 36",
    "profile_hide 0",
    "profile_language en",
    "profile_notes \x7bA flow profile: preinfuse at 4 mL/s, hold at 2 mL/s and decline to " ++
      "1.2 mL/s.\x7d",
    "profile_title \x7bFlow profile for straight espresso\x7d",
    "settings_profile_type settings_2b",
    "tank_desired_water_temperature 0"]

def londinium : Document :=
  ofLines "londinium.tcl" [
    "advanced_shot \x7b\x7bexit_if 1 flow 8 volume 100 max_flow_or_pressure_range 0.6 " ++
      "transition fast exit_flow_under 0 temperature 90.00 name \x7bFill\x7d pressure 3 " ++
      "sensor coffee pump flow exit_type pressure_over exit_flow_over 6 exit_pressure_over " ++
      "3.0 max_flow_or_pressure 0 exit_pressure_under 0 seconds 25.00\x7d " ++
      "\x7bexit_if 0 flow 0 volume 100 max_flow_or_pressure_range 0.6 transition fast " ++
      "exit_flow_under 0 temperature 90.00 name \x7bInfuse\x7d pressure 3.0 sensor coffee " ++
      "pump pressure exit_flow_over 6 exit_pressure_over 11 max_flow_or_pressure 0 " ++
      "exit_pressure_under 0 seconds 10.00\x7d " ++
      "\x7bexit_if 0 flow 0 volume 100 max_flow_or_pressure_range 0.6 transition fast " ++
      "exit_flow_under 0 temperature 90.00 name \x7bPressure Up\x7d pressure 9.0 sensor " ++
      "coffee pump pressure exit_flow_over 6 exit_pressure_over 11 max_flow_or_pressure 0 " ++
      "exit_pressure_under 0 seconds 4.00\x7d " ++
      "\x7bexit_if 0 flow 0 volume 100 max_flow_or_pressure_range 0.6 transition smooth " ++
      "exit_flow_under 0 temperature 90.00 name \x7bDecline\x7d pressure 4.0 sensor coffee " ++
      "pump pressure exit_flow_over 6 exit_pressure_over 11 max_flow_or_pressure 0 " ++
      "exit_pressure_under 0 seconds 40.00\x7d\x7d",
    "author Decent",
    "beverage_type espresso",
    "espresso_temperature 90.00",
    "espresso_temperature_steps_enabled 0",
    "final_desired_shot_volume_advanced 0",
    "final_desired_shot_weight_advanced 36",
    "maximum_flow_range_advanced 0.6",
    "maximum_pressure_range_advanced 0.6",
    "profile_hide 0",
    "profile_language en",
    "profile_notes \x7bA lever machine style shot. Pre-infuse at 3 bar, jump to 9 bar and " ++
      "let the pressure fall away slowly as a spring lever would.\x7d",
    "profile_title \x7bLondinium\x7d",
    "settings_profile_type settings_2c",
    "tank_desired_water_temperature 0"]

def turboShot : Document :=
  ofLines "turbo_shot.tcl" [
    "advanced_shot \x7b\x7bexit_if 1 flow 8 volume 100 max_flow_or_pressure_range 0.6 " ++
      "transition fast exit_flow_under 4 temperature 94.00 name \x7bFill\x7d pressure 2 " ++
      "sensor coffee pump flow exit_type flow_under exit_flow_over 6 exit_pressure_over 1.5 " ++
      "max_flow_or_pressure 0 exit_pressure_under 0 seconds 6.00\x7d " ++
      "\x7bexit_if 0 flow 4.5 volume 100 max_flow_or_pressure_range 0.6 transition smooth " ++
      "exit_flow_under 4.5 temperature 94.00 name \x7bExtract\x7d pressure 6 sensor coffee " ++
      "pump flow exit_flow_over 6 exit_pressure_over 11 max_flow_or_pressure 6.0 " ++
      "exit_pressure_under 0 seconds 15.00\x7d\x7d",
    "author Decent",
    "beverage_type espresso",
    "espresso_temperature 94.00",
    "final_desired_shot_weight_advanced 50",
    "profile_hide 0",
    "profile_language en",
    "profile_notes \x7bFast, high-flow shot for a coarse grind. Fill quickly, then extract " ++
      "at 4.5 mL/s with a 6 bar pressure limit.\x7d",
    "profile_title \x7bTurbo shot\x7d",
    "settings_profile_type settings_2c",
    "tank_desired_water_temperature 0"]

def documents : List Document :=
  [bloomingEspresso, defaultProfile, filter21, flowProfileForStraightEspresso, londinium,
   turboShot]

end Espresso.Bundled
