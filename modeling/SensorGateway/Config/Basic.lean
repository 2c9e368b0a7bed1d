import SensorGateway.Broker.Message
import SensorGateway.Queue
import SensorGateway.Text
import SensorGateway.Topic.Table

/-!
What can be configured about a gateway. Every setting has a default. Periods are
in seconds.
-/

namespace SensorGateway

/-- A topic name with a fixed id. -/
structure PredefinedTopic where
  id : UInt16
  name : String
deriving DecidableEq

structure BrokerAddress where
  host : String := "localhost"
  port : UInt16 := 1883
deriving DecidableEq

/-- What goes into every CONNECT to the broker, and the will of the gateway
itself. -/
structure ConnectSettings where
  protocolName : String := "MQIsdp"
  protocolVersion : UInt8 := 3
  cleanSession : Bool := true
  willFlag : Bool := false
  willQos : UInt8 := 0
  willRetain : Bool := false
  willTopic : String := ""
  willMessage : String := ""
deriving DecidableEq

namespace ConnectSettings

/-- The will of the gateway, if it has one. -/
def will (settings : ConnectSettings) : Option Broker.Will :=
  if settings.willFlag then
    some
      { topic := settings.willTopic
        data := Text.bytes settings.willMessage
        qos := settings.willQos
        retain := settings.willRetain }
  else none

end ConnectSettings

/-- A link to devices that is to be opened. -/
inductive DeviceLinkSettings where
  | udp (port : UInt16)
deriving DecidableEq

namespace DeviceLinkSettings

def defaultPort : UInt16 := 20000

def name : DeviceLinkSettings → LinkName
  | udp port => "udp:" ++ toString port.toNat

end DeviceLinkSettings

structure Config where
  gatewayId : UInt8 := 1
  /-- Ids from 1 up to this one are for predefined topics. -/
  predefinedTopicIdSize : UInt16 := 50
  advertisePeriod : Nat := 900
  /-- How often the gateway lets the broker hear from it. -/
  keepAlivePeriod : Nat := 60
  /-- How often the gateway looks for devices that are gone. -/
  checkingPeriod : Nat := 300
  /-- How often a request is sent again before it is given up. -/
  maxRetries : Nat := 3
  /-- How long the gateway waits for an answer of a device. -/
  waitingTime : Nat := 10
  /-- How long a device may be silent. -/
  handlerTimeout : Nat := 1800
  forwarderTimeout : Nat := 3600
  minFrameLength : Nat := 2
  maxFrameLength : Nat := 255
  logLevel : String := "info"
  predefinedTopics : List PredefinedTopic := []
  broker : BrokerAddress := {}
  connect : ConnectSettings := {}
  deviceLinks : List DeviceLinkSettings := [.udp DeviceLinkSettings.defaultPort]
deriving DecidableEq

namespace Config

def predefinedEntries (config : Config) : List Topic.Entry :=
  config.predefinedTopics.map fun topic => (topic.id, topic.name)

/-- The topic table with which every session begins. -/
def topicTable (config : Config) : Topic.Table :=
  .ofPredefined config.predefinedTopicIdSize config.predefinedEntries

/-- The address of the gateway itself. -/
def gatewayAddress (config : Config) : Address :=
  .gateway config.gatewayId

end Config

end SensorGateway
