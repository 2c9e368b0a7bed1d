import SensorGateway.Config.Basic

/-!
Which configurations a gateway can work with. The settings are looked at in a
fixed order and the first problem is the one that is told.
-/

namespace SensorGateway.Config

inductive Problem where
  | notPositive (setting : String)
  | frameLengths (min max : Nat)
  | topicOutside (topic : PredefinedTopic) (size : UInt16)
  | topicTwice (id : UInt16)
  | topicUnnamed (id : UInt16)
  | willQos (qos : UInt8)
  | noBrokerHost
  | noDeviceLinks
deriving DecidableEq

namespace Problem

def reason : Problem → String
  | notPositive setting => s!"{setting} must be > 0"
  | frameLengths min max => s!"frame length range {min}..={max} must lie within 2..=255"
  | topicOutside topic size =>
      "predefined topic '" ++ topic.name ++ "' has id " ++ toString topic.id.toNat ++
        " outside 1..=" ++ toString size.toNat
  | topicTwice id => "predefined topic id " ++ toString id.toNat ++ " is defined twice"
  | topicUnnamed id => "predefined topic id " ++ toString id.toNat ++ " has an empty name"
  | willQos qos => "will_qos " ++ toString qos.toNat ++ " must be 0, 1 or 2"
  | noBrokerHost => "broker host is empty"
  | noDeviceLinks => "no device links configured"

def message (problem : Problem) : String :=
  "Invalid configuration: " ++ problem.reason

end Problem

def checkPeriods : List (String × Nat) → Except Problem Unit
  | [] => .ok ()
  | (setting, value) :: rest =>
      if value = 0 then .error (.notPositive setting) else checkPeriods rest

/-- Looks at predefined topics one after the other; `seen` are the ids of those
before. -/
def checkTopics (size : UInt16) (seen : List UInt16) :
    List PredefinedTopic → Except Problem Unit
  | [] => .ok ()
  | topic :: rest =>
      if topic.id = 0 ∨ topic.id > size then .error (.topicOutside topic size)
      else if topic.id ∈ seen then .error (.topicTwice topic.id)
      else if topic.name.isEmpty then .error (.topicUnnamed topic.id)
      else checkTopics size (topic.id :: seen) rest

def validate (config : Config) : Except Problem Unit := do
  checkPeriods
    [("adv_period_secs", config.advertisePeriod),
      ("keep_alive_period_secs", config.keepAlivePeriod),
      ("checking_period_secs", config.checkingPeriod),
      ("waiting_time_secs", config.waitingTime),
      ("forwarder_timeout_secs", config.forwarderTimeout)]
  if config.minFrameLength < 2 ∨ config.maxFrameLength > 255 ∨
      config.minFrameLength > config.maxFrameLength then
    throw (.frameLengths config.minFrameLength config.maxFrameLength)
  checkTopics config.predefinedTopicIdSize [] config.predefinedTopics
  if config.connect.willQos > 2 then throw (.willQos config.connect.willQos)
  if config.broker.host.isEmpty then throw .noBrokerHost
  if config.deviceLinks.isEmpty then throw .noDeviceLinks

end SensorGateway.Config
