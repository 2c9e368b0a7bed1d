import SensorGateway.Config.Basic
import SensorGateway.Toml.Quoted

/-!
Writing a configuration: single settings first, then each record as a table of
its own. A list of records is a table for each of them, or an empty array among
the single settings.
-/

namespace SensorGateway.Config

/-- A setting and its value as they are written. -/
abbrev Setting := String × String

def textSetting (name value : String) : Setting := (name, Toml.quoted value)

def numberSetting (name : String) (value : Nat) : Setting := (name, toString value)

def truthSetting (name : String) (value : Bool) : Setting :=
  (name, if value then "true" else "false")

def settingLines (settings : List Setting) : String :=
  String.join (settings.map fun (name, value) => name ++ " = " ++ value ++ "\n")

/-- A table after an empty line. -/
def tableLines (header : String) (settings : List Setting) : String :=
  "\n" ++ header ++ "\n" ++ settingLines settings

def tablesLines (name : String) (tables : List (List Setting)) : String :=
  String.join (tables.map (tableLines ("[[" ++ name ++ "]]")))

/-- What stands among the single settings for a list of records. -/
def emptySetting {α : Type} (name : String) (records : List α) : List Setting :=
  if records.isEmpty then [(name, "[]")] else []

def singleSettings (config : Config) : List Setting :=
  [numberSetting "gw_id" config.gatewayId.toNat,
    numberSetting "predefined_topic_id_size" config.predefinedTopicIdSize.toNat,
    numberSetting "adv_period_secs" config.advertisePeriod,
    numberSetting "keep_alive_period_secs" config.keepAlivePeriod,
    numberSetting "checking_period_secs" config.checkingPeriod,
    numberSetting "max_retries" config.maxRetries,
    numberSetting "waiting_time_secs" config.waitingTime,
    numberSetting "handler_timeout_secs" config.handlerTimeout,
    numberSetting "forwarder_timeout_secs" config.forwarderTimeout,
    numberSetting "min_frame_length" config.minFrameLength,
    numberSetting "max_frame_length" config.maxFrameLength,
    textSetting "log_level" config.logLevel]

def predefinedTopicSettings (topic : PredefinedTopic) : List Setting :=
  [numberSetting "id" topic.id.toNat, textSetting "name" topic.name]

def brokerSettings (broker : BrokerAddress) : List Setting :=
  [textSetting "host" broker.host, numberSetting "port" broker.port.toNat]

def connectSettings (connect : ConnectSettings) : List Setting :=
  [textSetting "protocol_name" connect.protocolName,
    numberSetting "protocol_version" connect.protocolVersion.toNat,
    truthSetting "clean_session" connect.cleanSession,
    truthSetting "will_flag" connect.willFlag,
    numberSetting "will_qos" connect.willQos.toNat,
    truthSetting "will_retain" connect.willRetain,
    textSetting "will_topic" connect.willTopic,
    textSetting "will_message" connect.willMessage]

def deviceLinkSettings : DeviceLinkSettings → List Setting
  | .udp port => [textSetting "kind" "udp", numberSetting "port" port.toNat]

/-- The configuration as a TOML document. -/
def text (config : Config) : String :=
  settingLines (config.singleSettings ++
      emptySetting "predefined_topics" config.predefinedTopics ++
      emptySetting "device_links" config.deviceLinks) ++
    tablesLines "predefined_topics" (config.predefinedTopics.map predefinedTopicSettings) ++
    tableLines "[broker]" (brokerSettings config.broker) ++
    tableLines "[connect]" (connectSettings config.connect) ++
    tablesLines "device_links" (config.deviceLinks.map deviceLinkSettings)

end SensorGateway.Config
