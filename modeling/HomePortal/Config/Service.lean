import HomePortal.Text.Dotted
/-!
The services that act on nothing but the entities they are aimed at.
-/

namespace HomePortal.Service

def power : List String :=
  ["turn_on", "turn_off", "toggle"]

/-- For each domain the services whose whole effect is on their targets. All others run logic that
cannot be seen from the call. -/
def targeted : List (String × List String) := [
  ("homeassistant", power ++ ["update_entity"]),
  ("automation", power),
  ("light", power),
  ("switch", power),
  ("input_boolean", power),
  ("siren", power),
  ("fan", power ++ ["set_percentage", "set_preset_mode", "set_direction", "oscillate",
    "increase_speed", "decrease_speed"]),
  ("cover", ["open_cover", "close_cover", "stop_cover", "toggle", "set_cover_position",
    "open_cover_tilt", "close_cover_tilt", "stop_cover_tilt", "toggle_cover_tilt",
    "set_cover_tilt_position"]),
  ("valve", ["open_valve", "close_valve", "stop_valve", "toggle", "set_valve_position"]),
  ("climate", power ++ ["set_temperature", "set_hvac_mode", "set_preset_mode", "set_fan_mode",
    "set_humidity", "set_swing_mode"]),
  ("water_heater", ["turn_on", "turn_off", "set_temperature", "set_operation_mode",
    "set_away_mode"]),
  ("humidifier", power ++ ["set_humidity", "set_mode"]),
  ("media_player", power ++ ["media_play", "media_pause", "media_stop", "media_play_pause",
    "media_next_track", "media_previous_track", "media_seek", "volume_set", "volume_up",
    "volume_down", "volume_mute", "select_source", "shuffle_set", "repeat_set", "play_media"]),
  ("lock", ["lock", "unlock", "open"]),
  ("vacuum", ["start", "stop", "pause", "return_to_base", "locate", "clean_spot"]),
  ("alarm_control_panel", ["alarm_arm_away", "alarm_arm_home", "alarm_arm_night",
    "alarm_arm_vacation", "alarm_disarm"]),
  ("button", ["press"]),
  ("input_button", ["press"]),
  ("number", ["set_value"]),
  ("input_number", ["set_value", "increment", "decrement"]),
  ("select", ["select_option", "select_next", "select_previous"]),
  ("input_select", ["select_option", "select_next", "select_previous", "select_first",
    "select_last"]),
  ("input_text", ["set_value"]),
  ("input_datetime", ["set_datetime"]),
  ("counter", ["increment", "decrement", "reset"]),
  ("timer", ["start", "pause", "cancel", "finish"]),
  ("scene", ["turn_on"])]

def withoutEntities : List String :=
  ["notify", "persistent_notification", "logbook", "system_log"]

def isTargeted (service : String) : Bool :=
  match Text.dottedParts? service.toList with
  | some (domain, name) =>
    let domain := String.ofList domain
    withoutEntities.contains domain ||
      ((targeted.lookup domain).getD []).contains (String.ofList name)
  | none => false

end HomePortal.Service
